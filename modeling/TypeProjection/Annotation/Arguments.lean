import TypeProjection.Annotation.Display
import TypeProjection.Annotation.Fault
import TypeProjection.Annotation.Parser

/-!
Types made of types: unions, arguments for classes and special words, and new arguments for the type
variables inside a type. Every special word has rules of its own for what it accepts; what is kept
as written accepts anything.
-/

namespace TypeProjection.Annotation

namespace Value

/-- The name of a value's class. -/
def className (w : World) : Value → String
  | .none => "NoneType"
  | .ellipsis => "ellipsis"
  | .bool _ => "bool"
  | .int _ => "int"
  | .float _ => "float"
  | .str _ => "str"
  | .bytes _ => "bytes"
  | .list _ => "list"
  | .tuple _ => "tuple"
  | .set _ => "set"
  | .dict _ _ => "dict"
  | .cls c =>
    match w.metaclassOf c with
    | .plain => "type"
    | .abstract => "ABCMeta"
    | .protocol | .laterProtocol => "_ProtocolMeta"
    | .model => "ModelMetaclass"
    | .enumeration => "EnumType"
    | .anything => "_AnyMeta"
    | .typedDict => "_TypedDictMeta"
    | .namedTuple => "NamedTupleMeta"
  | .typeVar _ => "TypeVar"
  | .paramSpec _ => "ParamSpec"
  | .newType _ => "NewType"
  | .form "Literal" => "_LiteralSpecialForm"
  | .form _ => "_SpecialForm"
  | .alias "Callable" => "_CallableType"
  | .alias "Tuple" => "_TupleType"
  | .alias _ => "_SpecialGenericAlias"
  | .applied "Callable" _ _ => "_CallableGenericAlias"
  | .applied _ _ _ => "_GenericAlias"
  | .native _ _ | .looseCallable _ => "types.GenericAlias"
  | .formed "Literal" _ => "_LiteralGenericAlias"
  | .formed _ _ => "_GenericAlias"
  | .union true _ => "types.UnionType"
  | .union false _ => "_UnionGenericAlias"
  | .annotated _ _ => "_AnnotatedAlias"
  | .forward _ _ _ => "ForwardRef"
  | .initVar _ => "InitVar"
  | .member owner _ => w.nameOf owner
  | .function m _ =>
    if World.machineModules.contains m then "builtin_function_or_method" else "function"
  | .module _ => "module"
  | .other _ => "object"

/-- The variables inside a value, each once. -/
def typeVariables : Value → List Value
  | .typeVar i => [.typeVar i]
  | .paramSpec i => [.paramSpec i]
  | .tuple items => distinctValues (variablesOf items)
  | .applied _ _ arguments | .native _ arguments | .looseCallable arguments =>
    distinctValues (variablesOf arguments)
  | .formed "Literal" _ => []
  | .formed _ arguments => distinctValues (variablesOf arguments)
  | .union _ members => distinctValues (variablesOf members)
  | .annotated inner _ => inner.typeVariables
  | _ => []
where
  variablesOf : List Value → List Value
    | [] => []
    | v :: vs => v.typeVariables ++ variablesOf vs

/-- The variables of several values, each once. -/
def variablesOfAll (vs : List Value) : List Value := distinctValues (vs.flatMap typeVariables)

/-- Can the value stand between bars on its own? -/
def isPipeable : Value → Bool
  | .none | .cls _ | .native _ _ | .looseCallable _ | .union true _ => true
  | _ => false

/-- Does the value turn bars next to it into a union? -/
def makesUnion : Value → Bool
  | .typeVar _ | .paramSpec _ | .newType _ | .form _ | .alias _ | .applied _ _ _ | .formed _ _
  | .union false _ | .annotated _ _ | .forward _ _ _ => true
  | _ => false

/-- The members of a union, or the value alone. -/
def unionMembers : Value → List Value
  | .union _ members => members
  | v => [v]

end Value

namespace World

/-- A value as it stands on its own. -/
def shown (w : World) (v : Value) : String := w.display .alone v

/-- The values that can stand among arguments although they are plain special words. -/
def freeForms : List String := ["LiteralString", "NoReturn", "Never", "Self", "TypeAlias"]

/-- The base classes of generic classes and protocols, which are no types. -/
def isGenericRoot (c : ClassRef) : Bool :=
  c == genericRoot || c == protocolRoot || c == laterProtocolRoot

/-- A value as a type: the absence of a value becomes its class, and a text stands for a type. -/
def asType (module : String) (allowsForms : Bool) : Value → Except Fault Value
  | .none => .ok Value.noneType
  | .str s =>
    if (Expr.ofText? s).isSome then .ok (.forward s module allowsForms)
    else .error (.badSyntax ("Forward reference must be an expression -- got " ++ Text.display s))
  | v => .ok v

/-- What a value may be for. -/
structure TypeUse where
  /-- What is said of a value that is no type. -/
  message : String
  isArgument : Bool := true
  allowsForms : Bool := false
  module : String := ""

/-- A value checked to be a type. Anything that is not known to be no type passes. -/
def checkType (w : World) (use : TypeUse) (v : Value) : Except Fault Value := do
  let v ← asType use.module use.allowsForms v
  let invalid : Except Fault Value :=
    .error (.wrongType (w.shown v ++ " is not valid as type argument"))
  let plain : Except Fault Value :=
    .error (.wrongType ("Plain " ++ w.shown v ++ " is not valid as type argument"))
  match v with
  | .applied "" c _ => if isGenericRoot c then invalid else .ok v
  | .formed "ClassVar" _ => if use.allowsForms then .ok v else invalid
  | .formed "Final" _ => if use.allowsForms || !use.isArgument then .ok v else invalid
  | .form name =>
    if freeForms.contains name then .ok v
    else if use.allowsForms && (name == "ClassVar" || name == "Final") then .ok v
    else plain
  | .cls c => if isGenericRoot c then plain else .ok v
  | .tuple _ =>
    let shown := String.ofList ((w.shown v).toList.take 100)
    .error (.wrongType (use.message ++ " Got " ++ shown ++ "."))
  | _ => .ok v

/-- One of several types: nested unions are flattened, repetitions dropped, and a single member
stands for itself. -/
def unionOf (vs : List Value) : Value :=
  match Value.distinctValues (vs.flatMap Value.unionMembers) with
  | [v] => v
  | members => .union false members

/-- The union of values that may not all be types. -/
def checkedUnion (w : World) (vs : List Value) : Except Fault Value := do
  let types ← vs.mapM (w.checkType { message := "Union[arg, ...]: each arg must be a type." })
  return unionOf types

/-- One of several classes, written with bars. -/
def pipedUnion (vs : List Value) : Value :=
  let members := (vs.flatMap Value.unionMembers).map fun v =>
    match v with
    | .none => Value.noneType
    | v => v
  match Value.distinctValues members with
  | [v] => v
  | members => .union true members

/-- Two values with a bar between them. -/
def pipe (w : World) (l r : Value) : Except Fault Value :=
  match l, r with
  | .int n, .int m =>
    if 0 ≤ n && 0 ≤ m then .ok (.int (n.toNat ||| m.toNat)) else .error .endless
  | .bool a, .bool b => .ok (.bool (a || b))
  | .set xs, .set ys => .ok (.set (Value.distinctValues (xs ++ ys)))
  | _, _ =>
    let bothNone :=
      match l, r with
      | .none, .none => true
      | _, _ => false
    if l.isPipeable && r.isPipeable && !bothNone then .ok (pipedUnion [l, r])
    else if l.makesUnion || r.makesUnion then w.checkedUnion [l, r]
    else
      .error (.wrongType ("unsupported operand type(s) for |: " ++
        Text.display (l.className w) ++ " and " ++ Text.display (r.className w)))

/-- Several values with bars between them. -/
def pipeAll (w : World) : List Value → Except Fault Value
  | [] => .ok .none
  | v :: vs => vs.foldlM w.pipe v

/-- What is said of a wrong number of arguments. -/
def countFault (target : String) (actual expected : Nat) : Fault :=
  .wrongType ("Too " ++ (if expected < actual then "many" else "few") ++ " arguments for " ++
    target ++ "; actual " ++ toString actual ++ ", expected " ++ toString expected)

/-- Checks the number of arguments against a number that is not zero. -/
def checkCount (target : String) (actual expected : Nat) : Except Fault Unit :=
  if expected == 0 then .error (.wrongType (target ++ " is not a generic class"))
  else if actual != expected then .error (countFault target actual expected)
  else .ok ()

/-- Arguments made ready for a variable that takes a list of parameters: a list becomes a tuple, and
the only variable of a class takes all arguments at once. -/
def prepareFor (target : String) (params arguments : List Value) (v : Value) :
    Except Fault (List Value) :=
  match v with
  | .paramSpec _ =>
    match params.findIdx? (fun x => x.same v) with
    | none => .ok arguments
    | some i =>
      match arguments[i]? with
      | none => .error (.wrongType ("Too few arguments for " ++ target))
      | some a =>
        if params.length == 1 && !a.isParameterList then .ok [.tuple arguments]
        else
          match a with
          | .list items => .ok (arguments.set i (.tuple items))
          | _ => .ok arguments
  | _ => .ok arguments

/-- Arguments made ready for all variables. -/
def prepare (target : String) (params arguments : List Value) : Except Fault (List Value) :=
  params.foldlM (fun args v => prepareFor target params args v) arguments

/-- A tuple among the arguments of a callable stands for its items. -/
def flattened (origin : ClassRef) (arguments : List Value) : List Value :=
  if origin == callableRoot then
    arguments.flatMap fun v =>
      match v with
      | .tuple items => items
      | v => [v]
  else arguments

/-- What a variable takes. -/
def argumentFor (w : World) (v argument : Value) : Except Fault Value :=
  match v with
  | .paramSpec _ =>
    match argument with
    | .list items | .tuple items => do
      return .tuple (← items.mapM (w.checkType { message := "Expected a type." }))
    | a =>
      if a.isParameterList then .ok a
      else
        .error (.wrongType ("Expected a list of types, an ellipsis, ParamSpec, or Concatenate. " ++
          "Got " ++ w.shown a))
  | _ => w.checkType { message := "Parameters to generic types must be types." } argument

/-- Does a value know the module it belongs to? Plain data and modules do not. -/
def knowsModule : Value → Bool
  | .ellipsis | .bool _ | .int _ | .float _ | .str _ | .bytes _ | .list _ | .tuple _ | .set _
  | .dict _ _ | .module _ => false
  | _ => true

/-- Notes on a type that may have notes already. -/
def annotate (w : World) (inner : Value) (notes : List Value) : Except Fault Value :=
  match inner with
  | .annotated v more => .ok (.annotated v (more ++ notes))
  | v =>
    if knowsModule v then .ok (.annotated v notes)
    else
      .error (.unknownAttribute (Text.display (v.className w) ++
        " object has no attribute '__module__'"))

/-- The value with new arguments for its variables. -/
def substitute (w : World) (chosen : List (Value × Value)) : Value → Except Fault Value
  | .typeVar i =>
    match chosen.find? (fun e => e.1.same (.typeVar i)) with
    | some e => w.argumentFor (.typeVar i) e.2
    | Option.none => .ok (.typeVar i)
  | .paramSpec i =>
    match chosen.find? (fun e => e.1.same (.paramSpec i)) with
    | some e => w.argumentFor (.paramSpec i) e.2
    | Option.none => .ok (.paramSpec i)
  | .tuple items => do return .tuple (← substituteAll w chosen items)
  | .applied name origin arguments => do
    return .applied name origin (flattened origin (← substituteAll w chosen arguments))
  | .native origin arguments => do
    return .native origin (flattened origin (← substituteAll w chosen arguments))
  | .looseCallable arguments => do
    return .looseCallable (flattened callableRoot (← substituteAll w chosen arguments))
  | .formed "Literal" arguments => .ok (.formed "Literal" arguments)
  | .formed name arguments => do return .formed name (← substituteAll w chosen arguments)
  | .union false members => do w.checkedUnion (← substituteAll w chosen members)
  | .union true members => do w.pipeAll (← substituteAll w chosen members)
  | .annotated inner notes => do w.annotate (← substitute w chosen inner) notes
  | v => .ok v
where
  substituteAll (w : World) (chosen : List (Value × Value)) :
      List Value → Except Fault (List Value)
    | [] => .ok []
    | v :: vs => do return (← substitute w chosen v) :: (← substituteAll w chosen vs)

/-- New arguments for the variables of a type. -/
def applyVariables (w : World) (v : Value) (arguments : List Value) : Except Fault Value := do
  let target := w.shown v
  let params := v.typeVariables
  if params.isEmpty then .error (.wrongType (target ++ " is not a generic class"))
  else
    let arguments ← arguments.mapM fun a =>
      match v with
      | .native _ _ | .looseCallable _ | .union true _ => .ok a
      | _ => asType "" false a
    let arguments ← prepare target params arguments
    if arguments.length != params.length then
      .error (countFault target arguments.length params.length)
    else w.substitute (params.zip arguments) v

/-- The items of an index. -/
def itemsOf : Value → List Value
  | .tuple items => items
  | v => [v]

/-- A class with an argument for each of its type parameters. -/
def applyGeneric (w : World) (c : ClassRef) (index : Value) : Except Fault Value := do
  let arguments ← (itemsOf index).mapM (asType "" false)
  if isGenericRoot c then
    let name := w.nameOf c
    if arguments.isEmpty then
      .error (.wrongType ("Parameter list to " ++ name ++ "[...] cannot be empty"))
    else if !(arguments.all fun a => match a with
        | .typeVar _ | .paramSpec _ => true
        | _ => false) then
      .error (.wrongType ("Parameters to " ++ name ++ "[...] must all be type params " ++
        "or parameter specification variables."))
    else if (Value.distinctValues arguments).length != arguments.length then
      .error (.wrongType ("Parameters to " ++ name ++ "[...] must all be unique"))
    else .ok (.applied "" c arguments)
  else
    let target := w.displayClass c
    let parameters := w.parametersOf c
    let arguments ← prepare target parameters arguments
    checkCount target arguments.length parameters.length
    return .applied "" c arguments

/-- A callable with its parameters and its result, kept as written. -/
def applyNativeCallable (w : World) (index : Value) : Except Fault Value :=
  match index with
  | .tuple [.tuple items, result] | .tuple [.list items, result] =>
    .ok (.native callableRoot (items ++ [result]))
  | .tuple [parameters, result] =>
    if parameters.isParameterList then .ok (.native callableRoot [parameters, result])
    else
      .error (.wrongType ("Expected a list of types, an ellipsis, ParamSpec, or Concatenate. " ++
        "Got " ++ w.shown parameters))
  | _ => .error (.wrongType "Callable must be used as Callable[[arg, ...], result].")

/-- The modules whose classes are named with their module when they are no containers. -/
def fullyNamedModules : List String := ["datetime", "decimal", "operator", "functools", "re"]

/-- The name by which a class is said to take no arguments. -/
def subscriptName (w : World) (c : ClassRef) : String :=
  match c with
  | .library m n => if fullyNamedModules.contains m then m ++ "." ++ n else n
  | .declared _ => w.nameOf c

/-- A type with notes. -/
def applyAnnotated (w : World) (items : List Value) : Except Fault Value :=
  match items with
  | inner :: note :: notes => do
    let inner ← w.checkType
      { message := "Annotated[t, ...]: t must be a type.", allowsForms := true } inner
    w.annotate inner (note :: notes)
  | _ =>
    .error (.wrongType ("Annotated[...] should be used with at least two arguments (a type and " ++
      "an annotation)."))

/-- A class with arguments. -/
def applyClass (w : World) (c : ClassRef) (index : Value) : Except Fault Value :=
  if w.metaclassOf c == .enumeration then
    let found := match index with
      | .str s => (w.membersOf c).lookup s
      | _ => none
    match found with
    | some m => .ok (.member c m.1)
    | none => .error (.unknownKey (w.shown index))
  else if w.metaclassOf c == .model then
    .error (.wrongType (w.displayClass c ++
      " cannot be parametrized because it does not inherit from typing.Generic"))
  else
    match w.subscriptionOf c with
    | some .native => .ok (.native c (itemsOf index))
    | some .generic => w.applyGeneric c index
    | some .annotated => w.applyAnnotated (itemsOf index)
    | some .initVar => .ok (.initVar index)
    | some .callable => w.applyNativeCallable index
    | none => .error (.wrongType ("type " ++ Text.display (w.subscriptName c) ++
        " is not subscriptable"))

/-- Literals with those of nested literals. -/
def flatLiterals (items : List Value) : List Value :=
  items.flatMap fun v =>
    match v with
    | .formed "Literal" more => more
    | v => [v]

/-- The parameters of a function followed by those of another. -/
def applyConcatenate (w : World) (items : List Value) : Except Fault Value := do
  match items.getLast? with
  | none => .error (.wrongType "Cannot take a Concatenate of no types.")
  | some last =>
    let fits := match last with
      | .ellipsis | .paramSpec _ => true
      | _ => false
    if fits then
      let types ← items.dropLast.mapM
        (w.checkType { message := "Concatenate[arg, ...]: each arg must be a type." })
      return .formed "Concatenate" (types ++ [last])
    else
      .error (.wrongType ("The last parameter to Concatenate should be a ParamSpec variable or " ++
        "ellipsis."))

/-- A special word with arguments. -/
def applyForm (w : World) (name : String) (index : Value) : Except Fault Value :=
  let shown := "typing." ++ name
  match name with
  | "Union" =>
    match index with
    | .tuple [] => .error (.wrongType "Cannot take a Union of no types.")
    | _ => w.checkedUnion (itemsOf index)
  | "Optional" => do
    let v ← w.checkType { message := shown ++ " requires a single type." } index
    w.checkedUnion [v, Value.noneType]
  | "ClassVar" | "Final" | "TypeGuard" | "Unpack" => do
    let v ← w.checkType { message := shown ++ " accepts only single type." } index
    return .formed name [v]
  | "Required" | "NotRequired" => do
    let v ← w.checkType
      { message := name ++ " accepts only a single type.", allowsForms := true } index
    return .formed name [v]
  | "Literal" => .ok (.formed name (Value.distinctLiterals (flatLiterals (itemsOf index))))
  | "Concatenate" => w.applyConcatenate (itemsOf index)
  | _ => .error (.wrongType (shown ++ " is not subscriptable"))

/-- A generic name with arguments. -/
def applyAlias (w : World) (name : String) (index : Value) : Except Fault Value := do
  let origin := aliasOrigin name
  match name with
  | "Callable" =>
    match index with
    | .tuple [parameters, result] => do
      let result ← w.checkType
        { message := "Callable[args, result]: result must be a type." } result
      match parameters with
      | .ellipsis => return .applied name origin [.ellipsis, result]
      | .list items | .tuple items => do
        return .applied name origin ((← items.mapM (asType "" false)) ++ [result])
      | p => return .applied name origin [← asType "" false p, result]
    | _ => .error (.wrongType "Callable must be used as Callable[[arg, ...], result].")
  | "Tuple" =>
    let items := itemsOf index
    let isOpen := 2 ≤ items.length && (match items.getLast? with
      | some .ellipsis => true
      | _ => false)
    if isOpen then
      let types ← items.dropLast.mapM
        (w.checkType { message := "Tuple[t, ...]: t must be a type." })
      return .applied name origin (types ++ [.ellipsis])
    else
      let types ← items.mapM
        (w.checkType { message := "Tuple[t0, t1, ...]: each t must be a type." })
      return .applied name origin types
  | _ =>
    let types ← (itemsOf index).mapM
      (w.checkType { message := "Parameters to generic types must be types." })
    checkCount ("typing." ++ name) types.length
      (((genericName? name).bind GenericName.arity).getD types.length)
    return .applied name origin types

/-- An item of a sequence; a negative index counts from the end. -/
def itemAt (kind : String) (items : List Value) (index : Value) : Except Fault Value :=
  match index with
  | .int n =>
    let i := if n < 0 then n + items.length else n
    if i < 0 then .error (.outOfBounds (kind ++ " index out of range"))
    else
      match items[i.toNat]? with
      | some v => .ok v
      | none => .error (.outOfBounds (kind ++ " index out of range"))
  | _ => .error (.wrongType (kind ++ " indices must be integers or slices"))

/-- A value with an index. -/
def subscript (w : World) (target index : Value) : Except Fault Value :=
  match target with
  | .cls c => w.applyClass c index
  | .form name => w.applyForm name index
  | .alias name => w.applyAlias name index
  | .applied "" c _ =>
    if isGenericRoot c then
      .error (.wrongType ("Cannot subscript already-subscripted " ++ w.shown target))
    else w.applyVariables target (itemsOf index)
  | .applied _ _ _ | .native _ _ | .looseCallable _ | .formed _ _ | .union _ _ | .annotated _ _ =>
    w.applyVariables target (itemsOf index)
  | .list items => itemAt "list" items index
  | .tuple items => itemAt "tuple" items index
  | .dict keys values =>
    match (keys.zip values).find? fun e => e.1.same index with
    | some e => .ok e.2
    | none => .error (.unknownKey (w.shown index))
  | v => .error (.wrongType (Text.display (v.className w) ++ " object is not subscriptable"))

end World

end TypeProjection.Annotation
