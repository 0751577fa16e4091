import TypeProjection.Annotation.Arguments

/-!
Evaluating expressions. A scope is a list of name spaces, searched in order; behind the last come
the names that need no definition. Inside of a class, a name that starts with two underscores is
that class's own.
-/

namespace TypeProjection.Annotation

/-- Where names are looked up. -/
structure Scope where
  spaces : List (List (String × Value))
  /-- The class in whose body the expression stands. -/
  owner : Option String

/-- A name as the body of a class knows it. -/
def privateName (owner name : String) : String :=
  let stem := String.ofList (owner.toList.dropWhile (· == '_'))
  let cs := name.toList
  let isPrivate := cs.take 2 == ['_', '_'] && !(cs.reverse.take 2 == ['_', '_']) && stem != ""
  if isPrivate then "_" ++ stem ++ name else name

namespace Scope

/-- A name as it is looked up. -/
def known (s : Scope) (name : String) : String :=
  match s.owner with
  | some owner => privateName owner name
  | none => name

/-- What a name means in a list of spaces, or without a definition. -/
def find? (spaces : List (List (String × Value))) (name : String) : Option Value :=
  match spaces.findSome? fun names => names.lookup name with
  | some v => some v
  | none => builtinName? name

/-- What a name means. -/
def lookup (s : Scope) (name : String) : Except Fault Value :=
  match find? s.spaces (s.known name) with
  | some v => .ok v
  | none => .error (.unknownName (s.known name))

end Scope

namespace World

/-- What stands under a name in a class or in an ancestor of it. -/
def classAttribute? (w : World) (c : ClassRef) (name : String) : Option (ClassRef × Attribute) :=
  (w.ancestorsOf c).findSome? fun d => ((w.attributesOf d).lookup name).map fun a => (d, a)

/-- An attribute of a class. -/
def ofClass (w : World) (c : ClassRef) (name : String) : Except Fault Value :=
  match (w.membersOf c).lookup name with
  | some m => .ok (.member c m.1)
  | none =>
    match w.classAttribute? c name with
    | some (d, a) => .ok (w.attributeValue d name a)
    | none =>
      if name == "__name__" then .ok (.str (w.nameOf c))
      else if name == "__qualname__" then .ok (.str (w.pathOf c))
      else if name == "__module__" then .ok (.str (w.moduleOf c))
      else
        .error (.unknownAttribute ("type object " ++ Text.display (w.nameOf c) ++
          " has no attribute " ++ Text.display name))

/-- What every module knows of itself. -/
def ownName? (module : String) (file : Option String) (name : String) : Option Value :=
  if name == "__name__" then some (.str module)
  else if name == "__doc__" then some .none
  else if name == "__file__" then file.map Value.str
  else none

/-- An attribute of a module that has been run. -/
def loadedName? (m : LoadedModule) (name : String) : Option Value :=
  (m.names.lookup name).orElse fun _ => ownName? m.name m.file name

/-- An attribute of a module. -/
def moduleName? (w : World) (module name : String) : Option Value :=
  match w.loaded? module with
  | some m => loadedName? m name
  | none =>
    if libraryModules.contains module then
      (moduleAttribute? module name).orElse fun _ => ownName? module none name
    else none

/-- An attribute of a value. -/
def attributeOf (w : World) (v : Value) (name : String) : Except Fault Value :=
  let missing : Except Fault Value :=
    .error (.unknownAttribute (Text.display (v.className w) ++ " object has no attribute " ++
      Text.display name))
  match v with
  | .module m =>
    match w.moduleName? m name with
    | some x => .ok x
    | none =>
      .error (.unknownAttribute ("module " ++ Text.display m ++ " has no attribute " ++
        Text.display name))
  | .cls c => w.ofClass c name
  | .applied _ origin _ => w.ofClass origin name
  | .native origin _ => w.ofClass origin name
  | .looseCallable _ => w.ofClass callableRoot name
  | .alias a => w.ofClass (aliasOrigin a) name
  | .member owner m =>
    if name == "name" then .ok (.str m)
    else if name == "value" then
      match (w.membersOf owner).find? (fun e => e.2.1 == m) with
      | some e => .ok (.ofLiteral e.2.2)
      | none => missing
    else missing
  | .paramSpec i =>
    if name == "args" || name == "kwargs" then
      .ok (.other (((w.paramSpecs[i]?).map Prod.fst).getD "" ++ "." ++ name))
    else missing
  | _ => missing

/-- The class of a value. -/
def classOf (w : World) : Value → Value
  | .none => Value.noneType
  | .cls c =>
    match w.metaclassOf c with
    | .plain => .cls (builtin "type")
    | .enumeration => .cls (.library "enum" "EnumType")
    | _ => .cls (.library "abc" "ABCMeta")
  | .member owner _ => .cls owner
  | .typeVar _ => .cls (.library "typing" "TypeVar")
  | .native _ _ | .looseCallable _ => .cls (.library "types" "GenericAlias")
  | .union true _ => .cls (.library "types" "UnionType")
  | .function _ _ => .cls (builtin "function")
  | v => .cls (builtin (v.className w))

/-- What a call gives. Only the calls that a definition may hold are known by what they give. -/
def call (w : World) (callee : Value) (arguments : List Value) : Except Fault Value :=
  match callee, arguments with
  | .cls (.library "builtins" "type"), [v] => .ok (w.classOf v)
  | .cls (.library "builtins" "staticmethod"), [v] =>
    .ok (.other ("<staticmethod(" ++ w.shown v ++ ")>"))
  | .cls (.library "builtins" "classmethod"), [v] =>
    .ok (.other ("<classmethod(" ++ w.shown v ++ ")>"))
  | .cls (.library "builtins" "property"), _ => .ok (.other "<property object>")
  | .cls (.library "builtins" "list"), [] => .ok (.list [])
  | .cls (.library "builtins" "tuple"), [] => .ok (.tuple [])
  | .cls (.library "builtins" "dict"), [] => .ok (.dict [] [])
  | .cls (.library "builtins" "set"), [] => .ok (.set [])
  | .cls (.library "builtins" "str"), [] => .ok (.str "")
  | .cls (.library "builtins" "int"), [] => .ok (.int 0)
  | .cls (.library "builtins" "bool"), [] => .ok (.bool false)
  | .cls (.library "typing" "ForwardRef"), [.str s] => asType "" false (.str s)
  | .cls c, _ => .ok (.other ("<" ++ w.qualified c ++ " object>"))
  | .newType _, [v] => .ok v
  | .function "tsgen.reflection" "constructible", [v] =>
    match v with
    | .typeVar _ => .ok v
    | _ =>
      .error (.wrongType ("constructible() expects a TypeVar, got " ++ w.shown v))
  | .function _ path, _ => .ok (.other ("<" ++ path ++ " result>"))
  | .applied _ origin _, _ | .native origin _, _ =>
    .ok (.other ("<" ++ w.qualified origin ++ " object>"))
  | v, _ => .error (.wrongType (Text.display (v.className w) ++ " object is not callable"))

/-- The value of an operation. Numbers have signs and can be added; no operation makes a type. -/
def operate (symbol : String) (operands : List Value) : Except Fault Value :=
  match symbol, operands with
  | "-", [.int n] => .ok (.int (-n))
  | "+", [.int n] => .ok (.int n)
  | "~", [.int n] => .ok (.int (-n - 1))
  | "-", [.float x] => .ok (.float x.neg)
  | "+", [.float x] => .ok (.float x)
  | "+", [.int n, .int m] => .ok (.int (n + m))
  | "-", [.int n, .int m] => .ok (.int (n - m))
  | "*", [.int n, .int m] => .ok (.int (n * m))
  | "+", [.str s, .str t] => .ok (.str (s ++ t))
  | _, _ => .error (.wrongType ("unsupported operand type(s) for " ++ symbol))

/-- The value of an expression. -/
def evaluate (w : World) (s : Scope) : Expr → Except Fault Value
  | .none => .ok .none
  | .ellipsis => .ok .ellipsis
  | .bool b => .ok (.bool b)
  | .int n => .ok (.int n)
  | .float x => .ok (.float x)
  | .str t => .ok (.str t)
  | .bytes bs => .ok (.bytes bs)
  | .name n => s.lookup n
  | .attribute of name => do w.attributeOf (← evaluate w s of) (s.known name)
  | .subscript of index => do
    let target ← evaluate w s of
    w.subscript target (← evaluate w s index)
  | .tuple items => do return .tuple (← evaluateAll w s items)
  | .list items => do return .list (← evaluateAll w s items)
  | .set items => do
    let values ← evaluateAll w s items
    match values.find? fun v => !v.isHashable with
    | some v => .error (.wrongType ("unhashable type: " ++ Text.display (v.className w)))
    | Option.none => return .set (Value.distinctValues values)
  | .dict entries => do
    let (keys, values) ← evaluateEntries w s entries
    match keys.find? fun v => !v.isHashable with
    | some v => .error (.wrongType ("unhashable type: " ++ Text.display (v.className w)))
    | Option.none => return .dict keys values
  | .either left right => do
    let l ← evaluate w s left
    w.pipe l (← evaluate w s right)
  | .call callee arguments named => do
    let f ← evaluate w s callee
    let values ← evaluateAll w s arguments
    let more ← evaluateNamed w s named
    w.call f (values ++ more)
  | .operation symbol operands => do
    operate symbol (← evaluateAll w s operands)
where
  evaluateAll (w : World) (s : Scope) : List Expr → Except Fault (List Value)
    | [] => .ok []
    | e :: rest => do
      let v ← evaluate w s e
      return v :: (← evaluateAll w s rest)
  evaluateEntries (w : World) (s : Scope) :
      List (Expr × Expr) → Except Fault (List Value × List Value)
    | [] => .ok ([], [])
    | (k, v) :: rest => do
      let key ← evaluate w s k
      let value ← evaluate w s v
      let (keys, values) ← evaluateEntries w s rest
      return (key :: keys, value :: values)
  evaluateNamed (w : World) (s : Scope) : List (String × Expr) → Except Fault (List Value)
    | [] => .ok []
    | (_, e) :: rest => do
      let v ← evaluate w s e
      return v :: (← evaluateNamed w s rest)

end World

end TypeProjection.Annotation
