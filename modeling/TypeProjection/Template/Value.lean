import TypeProjection.Template.Fault
import TypeProjection.Text.Case

/-!
The values that a template computes with. `text` is what a value prints as, and `display` what it
prints as inside of another.
-/

namespace TypeProjection.Template

/-- A value. -/
inductive Value where
  /-- Nothing, with the wording for the case that it is used. -/
  | undefined (message : String)
  | none
  | bool (value : Bool)
  | int (value : Int)
  | float (value : Binary64)
  | str (value : List Text.Point)
  | list (items : List Value)
  | tuple (items : List Value)
  | dict (entries : List (Value × Value))
  /-- Items that can only be run through. -/
  | stream (kind : String) (items : List Value)
  /-- A thing with named fields, of a class with a short and a full name. -/
  | record (className fullName display : String) (fields : List (String × Value))
  | method (of : Value) (name : String)
  | function (name : String)
  | macro_ (place : Nat) (name : String)
  | range (start stop step : Option Int)
  deriving Inhabited, Repr

namespace Value

/-- A text as a value. -/
def ofString (s : String) : Value := .str (Text.points s)

/-- The name of a value's class. -/
def className : Value → String
  | .undefined _ => "Undefined"
  | .none => "NoneType"
  | .bool _ => "bool"
  | .int _ => "int"
  | .float _ => "float"
  | .str _ => "str"
  | .list _ => "list"
  | .tuple _ => "tuple"
  | .dict _ => "dict"
  | .stream kind _ => kind
  | .record className _ _ _ => className
  | .method _ _ => "builtin_function_or_method"
  | .function _ => "type"
  | .macro_ _ _ => "Macro"
  | .range _ _ _ => "slice"

/-- What a value is, for messages about something it lacks. -/
def described : Value → String
  | .none => "None"
  | .record _ fullName _ _ => fullName ++ " object"
  | .undefined _ => "jinja2.runtime.Undefined object"
  | .macro_ _ _ => "jinja2.runtime.Macro object"
  | v => v.className ++ " object"

/-- An attribute that a value lacks. -/
def lacksAttribute (v : Value) (name : List Text.Point) : Value :=
  .undefined (Text.display v.described ++ " has no attribute " ++ Text.displayPoints name)

/-- A value as it is printed inside of another. -/
def display : Value → String
  | .undefined _ => "Undefined"
  | .none => "None"
  | .bool b => Text.truth b
  | .int n => toString n
  | .float x => x.text
  | .str ps => Text.displayPoints ps
  | .list items => Text.bracketed (displayAll items)
  | .tuple items => Text.parenthesized (displayAll items)
  | .dict entries => "\x7b" ++ String.intercalate ", " (displayEntries entries) ++ "\x7d"
  | .stream kind _ => "<" ++ kind ++ " object>"
  | .record _ _ display _ => display
  | .method _ name => "<built-in method " ++ name ++ ">"
  | .function name => "<class '" ++ name ++ "'>"
  | .macro_ _ name => "<Macro " ++ Text.display name ++ ">"
  | .range _ _ _ => "slice"
where
  displayAll : List Value → List String
    | [] => []
    | x :: rest => x.display :: displayAll rest
  displayEntries : List (Value × Value) → List String
    | [] => []
    | (k, v) :: rest => (k.display ++ ": " ++ v.display) :: displayEntries rest

/-- A value as it is printed. -/
def text : Value → List Text.Point
  | .undefined _ => []
  | .str ps => ps
  | v => Text.points v.display

/-- The number that a value counts as. -/
def number? : Value → Option (Int ⊕ Binary64)
  | .bool b => some (.inl (if b then 1 else 0))
  | .int n => some (.inl n)
  | .float x => some (.inr x)
  | _ => Option.none

/-- Does a value count as true? -/
def truth : Value → Bool
  | .undefined _ | .none => false
  | .bool b => b
  | .int n => n != 0
  | .float x => !x.isZero
  | .str ps => !ps.isEmpty
  | .list items | .tuple items => !items.isEmpty
  | .dict entries => !entries.isEmpty
  | _ => true

/-- Are two values equal? -/
def equals : Value → Value → Bool
  | .undefined _, .undefined _ => true
  | .none, .none => true
  | .str s, .str t => s == t
  | .list xs, .list ys => equalAll xs ys
  | .tuple xs, .tuple ys => equalAll xs ys
  | .dict xs, .dict ys => xs.length == ys.length && equalEntries xs ys
  | .record c _ d xs, .record e _ f ys => c == e && d == f && equalFields xs ys
  | .function f, .function g => f == g
  | .macro_ m _, .macro_ n _ => m == n
  | x, y =>
    match x.number?, y.number? with
    | some n, some m => Literal.sameNumber n m
    | _, _ => false
where
  equalAll : List Value → List Value → Bool
    | [], [] => true
    | x :: xs, y :: ys => x.equals y && equalAll xs ys
    | _, _ => false
  equalEntries : List (Value × Value) → List (Value × Value) → Bool
    | [], [] => true
    | (k, x) :: xs, (l, y) :: ys => k.equals l && x.equals y && equalEntries xs ys
    | _, _ => false
  equalFields : List (String × Value) → List (String × Value) → Bool
    | [], [] => true
    | (k, x) :: xs, (l, y) :: ys => k == l && x.equals y && equalFields xs ys
    | _, _ => false

/-- The items that a value runs through, if it does. -/
def items? : Value → Option (List Value)
  | .undefined _ => some []
  | .list items | .tuple items | .stream _ items => some items
  | .str ps => some (ps.map fun p => .str [p])
  | .dict entries => some (entries.map (·.1))
  | _ => Option.none

/-- The items that a value runs through; it must. -/
def items (v : Value) : Except Fault (List Value) :=
  match v.items? with
  | some items => .ok items
  | Option.none => .error (.wrongType ("'" ++ v.className ++ "' object is not iterable"))

/-- How many items a value has, if they can be counted without running through them. -/
def size? : Value → Option Nat
  | .undefined _ => some 0
  | .list items | .tuple items => some items.length
  | .str ps => some ps.length
  | .dict entries => some entries.length
  | _ => Option.none

end Value

end TypeProjection.Template
