import TypeProjection.Pairs
import TypeProjection.Template.Check
import TypeProjection.Template.Parser

/-!
Running a template. A name is looked up from the innermost frame outwards; every turn of a loop and
every call of a macro has a frame of its own, a branch has none. Depth is bounded by fuel.
-/

namespace TypeProjection.Template

/-- Where templates are found by name. A file that is no text gives the reason. -/
structure Loader where
  searchPath : String
  read : String → Option (Except String String)

/-- Names with their values. -/
abbrev Frame := List (String × Value)

/-- A macro, with the frames around its definition other than the outermost. -/
structure Macro where
  name : String
  parameters : List (String × Option Expr)
  body : List Node
  frames : List Frame

/-- What a running template knows. The innermost frame comes first. -/
structure Scope where
  frames : List Frame
  macros : List Macro

/-- A computation of a running template. -/
abbrev Run := StateT Scope (Except Fault)

namespace Run

/-- The value of a name in some frames. -/
def lookupName (name : String) : List Frame → Option Value
  | [] => none
  | f :: rest =>
    match f.lookup name with
    | some v => some v
    | none => lookupName name rest

/-- The value of a name. -/
def valueOf (name : String) : Run Value := do
  match lookupName name (← get).frames with
  | some v => return v
  | none =>
    if name == "range" then return .function "range"
    else return .undefined (Text.display name ++ " is undefined")

/-- Gives a name a value in the innermost frame. -/
def setName (name : String) (v : Value) : Run Unit :=
  modify fun s =>
    match s.frames with
    | [] => { s with frames := [[(name, v)]] }
    | f :: rest => { s with frames := putPair name v f :: rest }

mutual

/-- Binds a target to a value; a tuple takes the value apart. -/
def bind (t : Target) (v : Value) : Run Unit :=
  match t with
  | .name n => setName n v
  | .tuple targets => do
    match v.items? with
    | none => throw (.wrongType ("cannot unpack non-iterable " ++ v.className ++ " object"))
    | some items =>
      if items.length < targets.length then
        throw (.wrongValue ("not enough values to unpack (expected " ++ toString targets.length ++
          ", got " ++ toString items.length ++ ")"))
      else if targets.length < items.length then
        throw (.wrongValue ("too many values to unpack (expected " ++ toString targets.length ++
          ")"))
      else bindAll targets items

/-- Binds targets to values, one by one. -/
def bindAll : List Target → List Value → Run Unit
  | t :: ts, v :: vs => do
    bind t v
    bindAll ts vs
  | _, _ => return

end

/-- Runs with other frames, and goes back to those before. -/
def within {α : Type} (frames : List Frame) (act : Run α) : Run α := do
  let before := (← get).frames
  modify fun s => { s with frames := frames }
  let result ← act
  modify fun s => { s with frames := before }
  return result

/-- What a loop tells its body about the turn. -/
def loopRecord (depth : Nat) (items : List Value) (i : Nat) : Value :=
  let size := items.length
  let count (n : Nat) : Value := .int n
  .record "LoopContext" "jinja2.runtime.LoopContext"
    ("<LoopContext " ++ toString (i + 1) ++ "/" ++ toString size ++ ">")
    [("index", count (i + 1)), ("index0", count i), ("revindex", count (size - i)),
      ("revindex0", count (size - i - 1)), ("first", .bool (i == 0)),
      ("last", .bool (i + 1 == size)), ("length", count size), ("depth", count depth),
      ("depth0", count (depth - 1)),
      ("previtem", if i == 0 then .undefined "there is no previous item"
        else (items[i - 1]?).getD .none),
      ("nextitem", (items[i + 1]?).getD (.undefined "there is no next item")),
      ("cycle", .method (.int i) "cycle")]

/-- The items of an arithmetic sequence. -/
def rangeItems (a : Arguments) : Except Fault (List Value) :=
  match a.positional.map integer? with
  | [some n] => .ok ((List.range n.toNat).map fun (i : Nat) => .int i)
  | [some n, some m] => .ok ((List.range (m - n).toNat).map fun (i : Nat) => .int (n + i))
  | [some n, some m, some k] =>
    if k == 0 then .error (.wrongValue "range() arg 3 must not be zero")
    else
      let span := if 0 < k then m - n + k - 1 else n - m - k - 1
      .ok ((List.range (span / k.natAbs).toNat).map fun (i : Nat) => .int (n + i * k))
  | [] => .error (.wrongType "range expected at least 1 argument, got 0")
  | _ => .error (.wrongType "'str' object cannot be interpreted as an integer")

/-- Reads a template and checks it. -/
def compile (source : String) : Except Fault (List Node) := do
  let nodes ← nodesOf (tokens source)
  match unknownInNodes? false nodes with
  | some cause => throw cause
  | none => return nodes

/-- The template that a loader has under a name. A name that leaves the directory is refused. -/
def load (l : Loader) (name : List Text.Point) : Except Fault (List Node) :=
  if (Text.pieces (.char '/') name).any fun p => p == Text.points ".." then
    .error (.refusedName name)
  else
    match (Text.ofPoints? name).bind l.read with
    | none => .error (.notFound name l.searchPath)
    | some (.error reason) => .error (.notText reason)
    | some (.ok source) => compile source

/-- Is the cause that no template was found? -/
def isMissing : Fault → Bool
  | .notFound _ _ | .refusedName _ | .noneFound _ => true
  | _ => false

/-- The first template of several that a loader has. -/
def loadFirst (l : Loader) (names : List (List Text.Point)) :
    List (List Text.Point) → Except Fault (List Node)
  | [] => .error (.noneFound names)
  | n :: rest =>
    match load l n with
    | .error cause => if isMissing cause then loadFirst l names rest else .error cause
    | .ok nodes => .ok nodes

/-- The template that a value names; a sequence names several to choose from. -/
def loadValue (l : Loader) (v : Value) : Except Fault (List Node) :=
  match v with
  | .str name => load l name
  | .undefined m => .error (.undefined m)
  | _ => do
    let names := (← v.items).map Value.text
    loadFirst l names names

/-- The bound of a range of places. -/
def placeOf : Value → Option Int
  | .none => none
  | v => integer? v

/-- How many loops are open. -/
def loopDepth (frames : List Frame) : Nat :=
  (frames.filter fun f => (f.lookup "loop").isSome).length

mutual

/-- The value of an expression. -/
def eval (l : Loader) : Nat → Expr → Run Value
  | 0, _ => throw .tooDeep
  | fuel + 1, e => do
    match e with
    | .none => return .none
    | .bool b => return .bool b
    | .int n => return .int n
    | .float x => return .float x
    | .str ps => return .str ps
    | .name n => valueOf n
    | .tuple items => return .tuple (← items.mapM (eval l fuel))
    | .list items => return .list (← items.mapM (eval l fuel))
    | .dict entries =>
      return .dict (← entries.mapM fun p => do
        return (← eval l fuel p.1, ← eval l fuel p.2))
    | .attribute of name => getAttribute (← eval l fuel of) name
    | .item of index =>
      let v ← eval l fuel of
      getItem v (← eval l fuel index)
    | .slice start stop step =>
      let bound (b : Option Expr) : Run (Option Int) := do
        match b with
        | some e => return placeOf (← eval l fuel e)
        | none => return none
      return .range (← bound start) (← bound stop) (← bound step)
    | .call callee arguments named =>
      let f ← eval l fuel callee
      call l fuel f (← evalArguments l fuel arguments named)
    | .filter of name arguments named =>
      let v ← eval l fuel of
      applyFilter 4 name v (← evalArguments l fuel arguments named)
    | .test of name arguments named =>
      let v ← eval l fuel of
      return .bool (← applyTest name v (← evalArguments l fuel arguments named))
    | .binary op left right =>
      let x ← eval l fuel left
      operate op x (← eval l fuel right)
    | .negative of => signed true (← eval l fuel of)
    | .positive of => signed false (← eval l fuel of)
    | .concat items => return .str ((← items.mapM (eval l fuel)).flatMap Value.text)
    | .compare first rest => return .bool (← compareChain l fuel (← eval l fuel first) rest)
    | .and left right =>
      let x ← eval l fuel left
      if x.truth then eval l fuel right else return x
    | .or left right =>
      let x ← eval l fuel left
      if x.truth then return x else eval l fuel right
    | .not of => return .bool (!(← eval l fuel of).truth)
    | .choose condition yes no =>
      if (← eval l fuel condition).truth then eval l fuel yes
      else
        match no with
        | some e => eval l fuel e
        | none =>
          return .undefined
            "the inline if-expression evaluated to false and no else section was defined."

/-- The values of arguments. -/
def evalArguments (l : Loader) : Nat → List Expr → List (String × Expr) → Run Arguments
  | 0, _, _ => throw .tooDeep
  | fuel + 1, arguments, named => do
    let vs ← arguments.mapM (eval l fuel)
    return ⟨vs, ← named.mapM fun p => do return (p.1, ← eval l fuel p.2)⟩

/-- Do all comparisons of a chain hold? The first that does not ends it. -/
def compareChain (l : Loader) : Nat → Value → List (Comparison × Expr) → Run Bool
  | 0, _, _ => throw .tooDeep
  | _ + 1, _, [] => return true
  | fuel + 1, x, (c, e) :: rest => do
    let y ← eval l fuel e
    if ← compared c x y then compareChain l fuel y rest else return false

/-- Calls a value. -/
def call (l : Loader) : Nat → Value → Arguments → Run Value
  | 0, _, _ => throw .tooDeep
  | fuel + 1, f, a => do
    match f with
    | .undefined m => throw (.undefined m)
    | .function _ => return .list (← rangeItems a)
    | .method (.str ps) name => textMethod name ps a
    | .method (.int i) _ =>
      match a.positional[i.toNat % a.positional.length]? with
      | some v => return v
      | none => throw (.wrongType "no items for cycling given")
    | .method (.dict entries) name =>
      if name == "items" then return .list (entries.map fun p => .tuple [p.1, p.2])
      else if name == "keys" then return .list (entries.map (·.1))
      else return .list (entries.map (·.2))
    | .macro_ place _ =>
      match (← get).macros[place]? with
      | some m => callMacro l fuel m a
      | none => return .none
    | _ => throw (.wrongType ("'" ++ f.className ++ "' object is not callable"))

/-- The text that a macro makes of its arguments. -/
def callMacro (l : Loader) : Nat → Macro → Arguments → Run Value
  | 0, _, _ => throw .tooDeep
  | fuel + 1, m, a => do
    let names := m.parameters.map (·.1)
    let size := toString names.length
    if names.length < a.positional.length then
      throw (.wrongType ("macro " ++ Text.display m.name ++ " takes not more than " ++ size ++
        " argument(s)"))
    match a.named.find? fun p => !(names.drop a.positional.length).contains p.1 with
    | some (n, _) =>
      throw (.wrongType ("macro " ++ Text.display m.name ++ " takes no keyword argument " ++
        Text.display n))
    | none =>
      let outermost := ((← get).frames.getLast?).toList
      within ([] :: m.frames ++ outermost) do
        bindParameters l fuel m.parameters a.positional a.named
        return .str (← runNodes l fuel m.body)

/-- Binds the parameters of a macro. A default may use the parameters before. -/
def bindParameters (l : Loader) : Nat → List (String × Option Expr) → List Value →
    List (String × Value) → Run Unit
  | 0, _, _, _ => throw .tooDeep
  | _ + 1, [], _, _ => return
  | fuel + 1, (n, default?) :: rest, vs, named => do
    let v ←
      match vs.head? <|> named.lookup n, default? with
      | some v, _ => pure v
      | none, some e => eval l fuel e
      | none, none =>
        pure (.undefined ("parameter " ++ Text.display n ++ " was not provided"))
    setName n v
    bindParameters l fuel rest vs.tail named

/-- The text that some nodes make. -/
def runNodes (l : Loader) : Nat → List Node → Run (List Text.Point)
  | 0, _ => throw .tooDeep
  | fuel + 1, nodes => do return (← nodes.mapM (runNode l fuel)).flatten

/-- The text that a node makes. -/
def runNode (l : Loader) : Nat → Node → Run (List Text.Point)
  | 0, _ => throw .tooDeep
  | fuel + 1, node => do
    match node with
    | .text s => return Text.points s
    | .output e => return (← eval l fuel e).text
    | .loop target range test body otherwise =>
      let all ← (← eval l fuel range).items
      let frames := (← get).frames
      let items ←
        match test with
        | none => pure all
        | some e =>
          all.filterM fun v => within ([] :: frames) do
            bind target v
            return (← eval l fuel e).truth
      if items.isEmpty then within ([] :: frames) (runNodes l fuel otherwise)
      else
        let depth := loopDepth frames + 1
        let turns ← items.zipIdx.mapM fun (v, i) =>
          within ([("loop", loopRecord depth items i)] :: frames) do
            bind target v
            runNodes l fuel body
        return turns.flatten
    | .branch cases otherwise => runBranch l fuel cases otherwise
    | .assign target e =>
      bind target (← eval l fuel e)
      return []
    | .capture target body =>
      let frames := (← get).frames
      let made ← within ([] :: frames) (runNodes l fuel body)
      bind target (.str made)
      return []
    | .macroDef name parameters body =>
      let scope ← get
      let place := scope.macros.length
      let made : Macro := ⟨name, parameters, body, scope.frames.dropLast⟩
      set { scope with macros := scope.macros ++ [made] }
      setName name (.macro_ place name)
      return []
    | .include_ e ignoreMissing =>
      let v ← eval l fuel e
      match loadValue l v with
      | .ok nodes =>
        let frames := (← get).frames
        within ([] :: frames) (runNodes l fuel nodes)
      | .error cause =>
        if ignoreMissing && isMissing cause then return [] else throw cause

/-- The text of the first body whose condition holds. -/
def runBranch (l : Loader) : Nat → List (Expr × List Node) → List Node → Run (List Text.Point)
  | 0, _, _ => throw .tooDeep
  | fuel + 1, [], otherwise => runNodes l fuel otherwise
  | fuel + 1, (condition, body) :: rest, otherwise => do
    if (← eval l fuel condition).truth then runNodes l fuel body
    else runBranch l fuel rest otherwise

end

end Run

/-- How deep a running template may nest. -/
def depthLimit : Nat := 1000

/-- The text that a template makes of its variables. -/
def run (l : Loader) (nodes : List Node) (frame : Frame) : Except Fault (List Text.Point) :=
  ((Run.runNodes l depthLimit nodes).run ⟨[frame], []⟩).map (·.1)

/-- The text that a written template makes of its variables. -/
def runSource (l : Loader) (source : String) (frame : Frame) :
    Except Fault (List Text.Point) := do
  run l (← Run.compile source) frame

/-- The text that a template found by its name makes of its variables. -/
def runNamed (l : Loader) (name : String) (frame : Frame) : Except Fault (List Text.Point) := do
  run l (← Run.load l (Text.points name)) frame

end TypeProjection.Template
