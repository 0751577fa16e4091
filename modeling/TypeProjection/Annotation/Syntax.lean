import TypeProjection.Literal

/-!
Annotation text as data. `text` writes an expression in its normal form: single quotation marks,
single spaces, no superfluous parentheses around a tuple of arguments.
-/

namespace TypeProjection.Annotation

/-- An expression that can stand in an annotation. -/
inductive Expr where
  | none
  | ellipsis
  | bool (value : Bool)
  | int (value : Int)
  | float (value : Binary64)
  | str (value : String)
  | bytes (value : List Nat)
  | name (name : String)
  | attribute (of : Expr) (name : String)
  | subscript (of index : Expr)
  | tuple (items : List Expr)
  | list (items : List Expr)
  | set (items : List Expr)
  | dict (entries : List (Expr × Expr))
  /-- One type or another. -/
  | either (left right : Expr)
  | call (callee : Expr) (arguments : List Expr) (named : List (String × Expr))
  /-- Any other operation, which no type is made by. -/
  | operation (symbol : String) (operands : List Expr)
  deriving Inhabited, Repr

namespace Expr

/-- Is the expression written without operators or commas outside of brackets? -/
def isClosed : Expr → Bool
  | .either _ _ | .operation _ _ => false
  | .int n => 0 ≤ n
  | _ => true

/-- A text in parentheses, if needed. -/
def wrapped (needed : Bool) (s : String) : String := if needed then "(" ++ s ++ ")" else s

/-- Items with commas, as a tuple is written without its parentheses. -/
def commas (items : List String) : String :=
  match items with
  | [] => "()"
  | [item] => item ++ ","
  | _ => String.intercalate ", " items

/-- The operands of an operation with its symbol before or between them. -/
def operated (symbol : String) (operands : List String) : String :=
  match operands with
  | [x] => symbol ++ x
  | _ => String.intercalate (" " ++ symbol ++ " ") operands

/-- An expression in normal form. -/
def text : Expr → String
  | .none => "None"
  | .ellipsis => "..."
  | .bool b => Text.truth b
  | .int n => toString n
  | .float x => x.text
  | .str s => Text.display s
  | .bytes bs => Text.displayBytes bs
  | .name n => n
  | .attribute of member => wrapped (!of.isClosed) of.text ++ "." ++ member
  | .subscript of (.tuple items) =>
    wrapped (!of.isClosed) of.text ++ "[" ++ commas (texts items) ++ "]"
  | .subscript of index => wrapped (!of.isClosed) of.text ++ "[" ++ index.text ++ "]"
  | .tuple items => wrapped (!items.isEmpty) (commas (texts items))
  | .list items => "[" ++ String.intercalate ", " (texts items) ++ "]"
  | .set items => "\x7b" ++ String.intercalate ", " (texts items) ++ "\x7d"
  | .dict entries => "\x7b" ++ String.intercalate ", " (entryTexts entries) ++ "\x7d"
  | .either left right =>
    left.text ++ " | " ++
      wrapped (match right with | .either _ _ => true | _ => false) right.text
  | .call callee arguments named =>
    wrapped (!callee.isClosed) callee.text ++ "(" ++
      String.intercalate ", " (texts arguments ++ namedTexts named) ++ ")"
  | .operation symbol operands => "(" ++ operated symbol (texts operands) ++ ")"
where
  texts : List Expr → List String
    | [] => []
    | e :: rest => e.text :: texts rest
  entryTexts : List (Expr × Expr) → List String
    | [] => []
    | (k, v) :: rest => (k.text ++ ": " ++ v.text) :: entryTexts rest
  namedTexts : List (String × Expr) → List String
    | [] => []
    | (n, e) :: rest => (n ++ "=" ++ e.text) :: namedTexts rest

end Expr

end TypeProjection.Annotation
