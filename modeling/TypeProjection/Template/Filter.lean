import TypeProjection.Template.Operators

/-!
Filters, tests and the methods of texts. A filter maps a value, with arguments by place or by name.
-/

namespace TypeProjection.Template

/-- Arguments by place and by name. -/
structure Arguments where
  positional : List Value
  named : List (String × Value)

/-- The argument with a place and a name. -/
def Arguments.get? (a : Arguments) (place : Nat) (name : String) : Option Value :=
  match a.positional[place]? with
  | some v => some v
  | none => a.named.lookup name

/-- The argument with a place and a name, read as a truth value; false unless given. -/
def Arguments.flag (a : Arguments) (place : Nat) (name : String) : Bool :=
  ((a.get? place name).map Value.truth).getD false

/-- The filters. -/
def filterNames : List String :=
  ["length", "count", "join", "map", "upper", "lower", "capitalize", "trim", "default", "d",
    "reverse", "sort", "first", "last", "list", "string", "replace", "unique"]

/-- The tests. -/
def testNames : List String :=
  ["defined", "undefined", "none", "true", "false", "boolean", "integer", "float", "number",
    "string", "sequence", "iterable", "mapping", "odd", "even", "divisibleby", "eq", "equalto",
    "ne", "lt", "lessthan", "le", "gt", "greaterthan", "ge", "in", "upper", "lower"]

/-- The place that a step of a path writes, if it is a number. -/
def stepPlace? (step : List Text.Point) : Option Nat :=
  match Text.ofPoints? step with
  | some s =>
    if s != "" && s.toList.all Char.isDigit then
      some (s.toList.foldl (fun n c => n * 10 + (c.toNat - 48)) 0)
    else none
  | none => none

/-- The steps of a dotted path: names, and places where a step is a number. -/
def pathSteps (path : Value) : List Value :=
  match path with
  | .str ps =>
    (Text.pieces (.char '.') ps).map fun step =>
      match stepPlace? step with
      | some n => .int n
      | none => .str step
  | v => [v]

/-- The value that a path leads to. -/
def followPath (default? : Option Value) : List Value → Value → Except Fault Value
  | [], v => .ok v
  | step :: rest, v => do
    let next ← getItem v step
    match next, default? with
    | .undefined _, some d => followPath default? rest d
    | _, _ => followPath default? rest next

/-- A text in upper case. -/
def inUpper : List Text.Point → List Text.Point := Text.changeRuns (·.flatMap Text.upperChar) []

/-- A text in lower case. -/
def inLower : List Text.Point → List Text.Point := Text.changeRuns (Text.lowerFrom []) []

/-- Does a character pass a test? A surrogate does not. -/
def passes (test : Char → Bool) (p : Text.Point) : Bool := (p.char?.map test).getD false

/-- A text without regard to case, for comparing; other values stand for themselves. -/
def foldCase : Value → Value
  | .str ps => .str (inLower ps)
  | v => v

/-- A keyed value put into a sorted list, behind those that are not greater. -/
def insertSorted (before : Value → Value → Except Fault Bool) (x : Value × Value) :
    List (Value × Value) → Except Fault (List (Value × Value))
  | [] => .ok [x]
  | y :: rest => do
    if ← before x.1 y.1 then return x :: y :: rest
    else return y :: (← insertSorted before x rest)

/-- Keyed values in order; equal ones stay as they are. -/
def sortKeyed (before : Value → Value → Except Fault Bool) (xs : List (Value × Value)) :
    Except Fault (List (Value × Value)) :=
  xs.foldlM (fun done x => insertSorted before x done) []

/-- Values in the order of their keys. -/
def sortedBy (key : Value → Except Fault Value) (reversed : Bool) (items : List Value) :
    Except Fault (List Value) := do
  let keyed ← items.mapM fun v => do return (← key v, v)
  let less (a b : Value) : Except Fault Bool := ordered ⟨"<", false, false⟩ a b
  let sorted ← sortKeyed (if reversed then fun a b => less b a else less) keyed
  return sorted.map (·.2)

/-- The first of each value, told apart by a key. -/
def uniqueBy (key : Value → Except Fault Value) :
    List Value → List Value → Except Fault (List Value)
  | _, [] => .ok []
  | seen, v :: rest => do
    let k ← key v
    if seen.any fun s => s.equals k then uniqueBy key seen rest
    else return v :: (← uniqueBy key (k :: seen) rest)

/-- How sorting and the like see a value: at a path if one is given, and without regard to case
unless asked for. -/
def sortKey (a : Arguments) (casePlace pathPlace : Nat) (v : Value) : Except Fault Value := do
  let at_ ← match a.get? pathPlace "attribute" with
    | some .none | none => pure v
    | some path => followPath none (pathSteps path) v
  return if a.flag casePlace "case_sensitive" then at_ else foldCase at_

/-- A text with its first character in upper case and the others in lower case. -/
def capitalized : List Text.Point → List Text.Point
  | [] => []
  | p :: rest => inUpper [p] ++ inLower rest

/-- The text without leading and trailing code points of one kind. -/
def trimmed (left right : Bool) (drops : Text.Point → Bool) (ps : List Text.Point) :
    List Text.Point :=
  let ps := if left then ps.dropWhile drops else ps
  if right then (ps.reverse.dropWhile drops).reverse else ps

/-- The text with every occurrence of a part replaced, from the start and without overlap. -/
def replaceAll (old new : List Text.Point) : Nat → List Text.Point → List Text.Point
  | 0, ps => ps
  | _ + 1, [] => if old.isEmpty then new else []
  | fuel + 1, p :: rest =>
    if old.isEmpty then new ++ p :: replaceAll old new fuel rest
    else if Text.startsWith (p :: rest) old then
      new ++ replaceAll old new fuel ((p :: rest).drop old.length)
    else p :: replaceAll old new fuel rest

/-- The text with every occurrence of a part replaced. -/
def replaced (old new ps : List Text.Point) : List Text.Point :=
  replaceAll old new (ps.length + 1) ps

/-- Values joined to a text. -/
def joined (separator : List Text.Point) (items : List Value) : List Text.Point :=
  separator.intercalate (items.map Value.text)

/-- What a filter makes of a value. Only `map` applies another filter, so the depth is small. -/
def applyFilter : Nat → String → Value → Arguments → Except Fault Value
  | 0, _, _, _ => .error .tooDeep
  | fuel + 1, name, v, a =>
    if name == "length" || name == "count" then
      match v with
      | _ =>
        match v.size? with
        | some n => .ok (.int n)
        | none => .error (.wrongType ("object of type '" ++ v.className ++ "' has no len()"))
    else if name == "join" then do
      let items ← v.items
      let items ← match a.get? 1 "attribute" with
        | some .none | none => pure items
        | some path => items.mapM (followPath none (pathSteps path))
      return .str (joined (((a.get? 0 "d").map Value.text).getD []) items)
    else if name == "map" then
      match v with
      | .none => .ok (.stream "generator" [])
      | _ => do
        let items ← v.items
        match a.positional, a.named.lookup "attribute" with
        | [], some path =>
          let steps := pathSteps path
          return .stream "generator"
            (← items.mapM (followPath (a.named.lookup "default") steps))
        | [], none => throw (.badFilterArgument "map requires a filter argument")
        | inner :: rest, _ =>
          match filterNames.find? fun n => Text.points n == inner.text with
          | some n =>
            return .stream "generator"
              (← items.mapM fun i => applyFilter fuel n i ⟨rest, a.named⟩)
          | none => throw (.absentFilter inner.text)
    else if name == "upper" then .ok (.str (inUpper v.text))
    else if name == "lower" then .ok (.str (inLower v.text))
    else if name == "capitalize" then .ok (.str (capitalized v.text))
    else if name == "trim" then .ok (.str (trimmed true true (passes Text.isBlank) v.text))
    else if name == "string" then .ok (.str v.text)
    else if name == "default" || name == "d" then
      let other := (a.get? 0 "default_value").getD (.str [])
      match v with
      | .undefined _ => .ok other
      | _ => .ok (if a.flag 1 "boolean" && !v.truth then other else v)
    else if name == "reverse" then
      match v with
      | .str ps => .ok (.str ps.reverse)
      | .stream _ items => .ok (.list items.reverse)
      | _ =>
        match v.items? with
        | some items => .ok (.stream "list_reverseiterator" items.reverse)
        | none => .error (.badFilterArgument "argument must be iterable")
    else if name == "sort" then do
      return .list (← sortedBy (sortKey a 1 2) (a.flag 0 "reverse") (← v.items))
    else if name == "unique" then do
      return .stream "generator" (← uniqueBy (sortKey a 0 1) [] (← v.items))
    else if name == "first" then do
      return ((← v.items).head?).getD (.undefined "No first item, sequence was empty.")
    else if name == "last" then do
      return ((← v.items).getLast?).getD (.undefined "No last item, sequence was empty.")
    else if name == "list" then do return .list (← v.items)
    else if name == "replace" then
      let part (place : Nat) (word : String) := ((a.get? place word).map Value.text).getD []
      .ok (.str (replaced (part 0 "old") (part 1 "new") v.text))
    else .error (.absentFilter (Text.points name))

/-- Is the text written in one case? It has to have a letter with case. -/
def inCase (change : List Text.Point → List Text.Point) (ps : List Text.Point) : Bool :=
  change ps == ps && ps.any (passes Text.isCased)

/-- Does a test hold of a value? -/
def applyTest (name : String) (v : Value) (a : Arguments) : Except Fault Bool :=
  let other := (a.positional.head?).getD .none
  let is (p : Value → Bool) : Except Fault Bool := .ok (p v)
  if name == "defined" then is fun | .undefined _ => false | _ => true
  else if name == "undefined" then is fun | .undefined _ => true | _ => false
  else if name == "none" then is fun | .none => true | _ => false
  else if name == "true" then is fun | .bool true => true | _ => false
  else if name == "false" then is fun | .bool false => true | _ => false
  else if name == "boolean" then is fun | .bool _ => true | _ => false
  else if name == "integer" then is fun | .int _ => true | _ => false
  else if name == "float" then is fun | .float _ => true | _ => false
  else if name == "number" then is fun v => v.number?.isSome
  else if name == "string" then is fun | .str _ => true | _ => false
  else if name == "sequence" then is fun v => v.size?.isSome
  else if name == "iterable" then is fun v => v.items?.isSome
  else if name == "mapping" then is fun | .dict _ => true | _ => false
  else if name == "odd" then (operate .mod v (.int 2)).map fun r => r.equals (.int 1)
  else if name == "even" then (operate .mod v (.int 2)).map fun r => r.equals (.int 0)
  else if name == "divisibleby" then (operate .mod v other).map fun r => r.equals (.int 0)
  else if name == "eq" || name == "equalto" then compared .eq v other
  else if name == "ne" then compared .ne v other
  else if name == "lt" || name == "lessthan" then compared .lt v other
  else if name == "le" then compared .le v other
  else if name == "gt" || name == "greaterthan" then compared .gt v other
  else if name == "ge" then compared .ge v other
  else if name == "in" then compared .inside v other
  else if name == "upper" then .ok (inCase inUpper v.text)
  else if name == "lower" then .ok (inCase inLower v.text)
  else .error (.absentTest name)

/-- The pieces of a text between occurrences of a separator. -/
def splitOn (separator : List Text.Point) :
    Nat → List Text.Point → List Text.Point → List (List Text.Point)
  | 0, piece, _ => [piece.reverse]
  | _ + 1, piece, [] => [piece.reverse]
  | fuel + 1, piece, p :: rest =>
    if Text.startsWith (p :: rest) separator then
      piece.reverse :: splitOn separator fuel [] ((p :: rest).drop separator.length)
    else splitOn separator fuel (p :: piece) rest

/-- The words of a text between blanks. -/
def words : List Text.Point → List Text.Point → List (List Text.Point)
  | [], [] => []
  | word, [] => [word.reverse]
  | word, p :: rest =>
    if passes Text.isBlank p then
      (if word.isEmpty then words [] rest else word.reverse :: words [] rest)
    else words (p :: word) rest

/-- A method of a text. -/
def textMethod (name : String) (ps : List Text.Point) (a : Arguments) : Except Fault Value :=
  let first := (a.positional.head?).getD .none
  let drops (p : Text.Point) : Bool := match first with
    | .str marks => marks.contains p
    | _ => passes Text.isBlank p
  if name == "upper" then .ok (.str (inUpper ps))
  else if name == "lower" then .ok (.str (inLower ps))
  else if name == "strip" then .ok (.str (trimmed true true drops ps))
  else if name == "lstrip" then .ok (.str (trimmed true false drops ps))
  else if name == "rstrip" then .ok (.str (trimmed false true drops ps))
  else if name == "startswith" then .ok (.bool (Text.startsWith ps first.text))
  else if name == "endswith" then .ok (.bool (Text.startsWith ps.reverse first.text.reverse))
  else if name == "replace" then
    .ok (.str (replaced first.text ((a.positional[1]?.map Value.text).getD []) ps))
  else if name == "join" then do return .str (joined ps (← first.items))
  else
    match first with
    | .str [] => .error (.wrongValue "empty separator")
    | .str separator => .ok (.list ((splitOn separator (ps.length + 1) [] ps).map .str))
    | _ => .ok (.list ((words [] ps).map .str))

end TypeProjection.Template
