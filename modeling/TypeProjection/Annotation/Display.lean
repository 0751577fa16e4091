import TypeProjection.Annotation.World

/-!
How values are written. A value looks different by its place: on its own, among the arguments of a
generic name, among arguments that were kept as written, and between bars.
-/

namespace TypeProjection.Annotation

/-- Where a value is written. -/
inductive Slot where
  /-- On its own, or in a collection. -/
  | alone
  /-- Among the arguments of a generic name. -/
  | argument
  /-- Among arguments that were kept as written. -/
  | nativeArgument
  /-- Between bars. -/
  | piped
  deriving DecidableEq, Repr

/-- Do the first arguments of a callable stand for all its parameters? -/
def Value.isParameterList : Value → Bool
  | .ellipsis | .tuple _ | .list _ | .paramSpec _ => true
  | .formed "Concatenate" _ => true
  | _ => false

/-- Are the parameters of a callable written out among its arguments? -/
def isFlatCallable (origin : ClassRef) (arguments : List Value) : Bool :=
  origin == callableRoot &&
    !(arguments.length == 2 && (arguments.head?.map Value.isParameterList).getD false)

namespace World

/-- The modules whose functions are part of the machine. -/
def machineModules : List String := ["builtins", "operator", "io"]

/-- The last part of a dotted name. -/
def lastName (path : String) : String :=
  ((path.splitOn ".").getLast?).getD path

/-- A class as a value of its own. -/
def displayClass (w : World) (c : ClassRef) : String :=
  if c == .library "typing" "Any" then "typing.Any"
  else if w.metaclassOf c == .enumeration then
    (if w.derives c flagRoot then "<flag " else "<enum ") ++ Text.display (w.nameOf c) ++ ">"
  else
    "<class " ++ Text.display (w.qualified c) ++ ">"

/-- A type variable, marked by its variance. -/
def displayVariable (w : World) (i : Nat) : String :=
  match w.typeVars[i]? with
  | none => "~"
  | some v =>
    (match v.variance with
      | .invariant => "~"
      | .covariant => "+"
      | .contravariant => "-") ++ v.name

/-- A function: by a machine address unless its name alone is asked for. -/
def displayFunction (module path : String) (slot : Slot) : String :=
  let qualified := if module == "builtins" then path else module ++ "." ++ path
  let alone :=
    if machineModules.contains module then "<built-in function " ++ path ++ ">"
    else "<function " ++ path ++ ">"
  match slot with
  | .alone => alone
  | .argument => if machineModules.contains module then alone else lastName path
  | .nativeArgument | .piped => qualified

/-- Arguments between brackets; empty parentheses stand for none. -/
def bracketedArguments (arguments : List String) : String :=
  if arguments.isEmpty then "[()]" else "[" ++ String.intercalate ", " arguments ++ "]"

/-- Parameters and a result between brackets. -/
def callableArguments (arguments : List String) : String :=
  "[[" ++ String.intercalate ", " arguments.dropLast ++ "], " ++
    (arguments.getLast?).getD "" ++ "]"

/-- The written members of a union; one that adds only the absence of a value has a word of its
own. -/
def displayUnion (members : List Value) (written : List String) : String :=
  match members, written with
  | [.cls (.library "builtins" "NoneType"), _], [_, other] => "typing.Optional[" ++ other ++ "]"
  | [_, .cls (.library "builtins" "NoneType")], [other, _] => "typing.Optional[" ++ other ++ "]"
  | _, _ => "typing.Union" ++ bracketedArguments written

/-- A text that stands for a type. -/
def displayForward (text module : String) : String :=
  "ForwardRef(" ++ Text.display text ++
    (if module == "" then "" else ", module=" ++ Text.display module) ++ ")"

/-- Entries of a dictionary. -/
def displayEntries : List String → List String → List String
  | k :: ks, v :: vs => (k ++ ": " ++ v) :: displayEntries ks vs
  | _, _ => []

/-- A value as it is written at a place. -/
def display (w : World) (slot : Slot) : Value → String
  | .none => "None"
  | .ellipsis =>
    match slot with
    | .argument | .nativeArgument => "..."
    | _ => "Ellipsis"
  | .bool b => Text.truth b
  | .int n => toString n
  | .float x => x.text
  | .str s => Text.display s
  | .bytes bs => Text.displayBytes bs
  | .list items => Text.bracketed (displays w .alone items)
  | .tuple items => Text.parenthesized (displays w .alone items)
  | .set items =>
    if items.isEmpty then "set()"
    else "\x7b" ++ String.intercalate ", " (displays w .alone items) ++ "\x7d"
  | .dict keys values =>
    "\x7b" ++ String.intercalate ", "
      (displayEntries (displays w .alone keys) (displays w .alone values)) ++ "\x7d"
  | .cls c =>
    match slot with
    | .alone => w.displayClass c
    | .piped => if c == builtin "NoneType" then "None" else w.qualified c
    | _ => w.qualified c
  | .typeVar i => w.displayVariable i
  | .paramSpec i => "~" ++ ((w.paramSpecs[i]?).map Prod.fst).getD ""
  | .newType i =>
    match w.newTypes[i]? with
    | some n => n.module ++ "." ++ n.name
    | Option.none => ""
  | .form name => "typing." ++ name
  | .alias name => "typing." ++ name
  | .applied "" origin arguments =>
    w.qualified origin ++ bracketedArguments (displays w .argument arguments)
  | .applied name origin arguments =>
    "typing." ++ name ++
      (if isFlatCallable origin arguments then callableArguments (displays w .argument arguments)
      else bracketedArguments (displays w .argument arguments))
  | .native origin arguments =>
    w.qualified origin ++
      (if isFlatCallable origin arguments then callableArguments (displays w .argument arguments)
      else bracketedArguments (displays w .nativeArgument arguments))
  | .looseCallable arguments =>
    w.qualified callableRoot ++ bracketedArguments (displays w .nativeArgument arguments)
  | .formed "Unpack" arguments => "*" ++ String.join (displays w .alone arguments)
  | .formed name arguments =>
    "typing." ++ name ++ bracketedArguments (displays w .argument arguments)
  | .union false members => displayUnion members (displays w .argument members)
  | .union true members => String.intercalate " | " (displays w .piped members)
  | .annotated inner notes =>
    "typing.Annotated[" ++ String.intercalate ", "
      (display w .argument inner :: displays w .alone notes) ++ "]"
  | .forward text module _ => displayForward text module
  | .initVar inner =>
    "dataclasses.InitVar[" ++
      (match inner with
        | .cls c => w.nameOf c
        | _ => display w .alone inner) ++ "]"
  | .member owner name =>
    match (w.membersOf owner).find? (fun m => m.2.1 == name) with
    | some m => "<" ++ w.nameOf owner ++ "." ++ name ++ ": " ++ m.2.2.display ++ ">"
    | Option.none => ""
  | .function module path => displayFunction module path slot
  | .module name =>
    match (w.loaded? name).bind LoadedModule.file with
    | some file => "<module " ++ Text.display name ++ " from " ++ Text.display file ++ ">"
    | none => "<module " ++ Text.display name ++ ">"
  | .other text => text
where
  displays (w : World) (slot : Slot) : List Value → List String
    | [] => []
    | v :: vs => display w slot v :: displays w slot vs

end World

end TypeProjection.Annotation
