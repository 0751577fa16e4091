import TypeProjection.Number.Binary64
import TypeProjection.Text.Point

/-!
Templates as data: expressions, and the nodes that a template is a list of.
-/

namespace TypeProjection.Template

/-- Operators on two values. -/
inductive BinaryOp where
  | add | sub | mul | div | floorDiv | mod | pow
  deriving DecidableEq, Repr

/-- Comparisons. -/
inductive Comparison where
  | eq | ne | lt | le | gt | ge | inside | outside
  deriving DecidableEq, Repr

/-- An expression. -/
inductive Expr where
  | none
  | bool (value : Bool)
  | int (value : Int)
  | float (value : Binary64)
  | str (value : List Text.Point)
  | name (name : String)
  | tuple (items : List Expr)
  | list (items : List Expr)
  | dict (entries : List (Expr × Expr))
  | attribute (of : Expr) (name : String)
  | item (of index : Expr)
  /-- A range of places; each bound may be left out. -/
  | slice (start stop step : Option Expr)
  | call (callee : Expr) (arguments : List Expr) (named : List (String × Expr))
  | filter (of : Expr) (name : String) (arguments : List Expr) (named : List (String × Expr))
  | test (of : Expr) (name : String) (arguments : List Expr) (named : List (String × Expr))
  | binary (op : BinaryOp) (left right : Expr)
  | negative (of : Expr)
  | positive (of : Expr)
  | concat (items : List Expr)
  | compare (first : Expr) (rest : List (Comparison × Expr))
  | and (left right : Expr)
  | or (left right : Expr)
  | not (of : Expr)
  | choose (condition yes : Expr) (no : Option Expr)
  deriving Inhabited, Repr

/-- What an assignment can bind. -/
inductive Target where
  | name (name : String)
  | tuple (targets : List Target)
  deriving Inhabited, Repr

/-- A part of a template. -/
inductive Node where
  | text (value : String)
  | output (value : Expr)
  /-- Repeats a body for the items that pass the test, or takes the other body if there are
  none. -/
  | loop (target : Target) (items : Expr) (test : Option Expr) (body otherwise : List Node)
  /-- Takes the body of the first condition that holds, or the other body. -/
  | branch (cases : List (Expr × List Node)) (otherwise : List Node)
  | assign (target : Target) (value : Expr)
  /-- Assigns the text that a body makes. -/
  | capture (target : Target) (body : List Node)
  | macroDef (name : String) (parameters : List (String × Option Expr)) (body : List Node)
  | include_ (template : Expr) (ignoreMissing : Bool)
  deriving Inhabited, Repr

end TypeProjection.Template
