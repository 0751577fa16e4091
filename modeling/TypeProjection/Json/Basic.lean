import TypeProjection.Number.Binary64
import TypeProjection.Text.Point

/-!
JSON values. An object keeps the order of its entries, and a key occurs in it once.
-/

namespace TypeProjection

/-- A JSON value. -/
inductive Json where
  | null
  | bool (value : Bool)
  | int (value : Int)
  | float (value : Binary64)
  | str (value : String)
  /-- A text with surrogates in it. -/
  | broken (value : List Text.Point)
  | arr (items : List Json)
  | obj (entries : List (String × Json))
  deriving Inhabited, Repr

namespace Json

/-- The text that code points make. -/
def ofPoints (ps : List Text.Point) : Json :=
  match Text.ofPoints? ps with
  | some s => .str s
  | none => .broken ps

/-- The value of a key, if the value is an object that has it. -/
def get? : Json → String → Option Json
  | .obj entries, key => entries.lookup key
  | _, _ => none

/-- The value of a key that is there and not null. -/
def present? (j : Json) (key : String) : Option Json :=
  match j.get? key with
  | some .null => none
  | found => found

/-- The text, if the value is one. -/
def str? : Json → Option String
  | .str s => some s
  | _ => none

/-- The truth value, if the value is one. -/
def bool? : Json → Option Bool
  | .bool b => some b
  | _ => none

/-- The integer, if the value is one. -/
def int? : Json → Option Int
  | .int n => some n
  | _ => none

/-- The items, if the value is an array. -/
def arr? : Json → Option (List Json)
  | .arr items => some items
  | _ => none

/-- The entries, if the value is an object. -/
def entries? : Json → Option (List (String × Json))
  | .obj entries => some entries
  | _ => none

/-- The text of a key, or nothing. -/
def strOf? (j : Json) (key : String) : Option String := (j.get? key).bind str?

/-- The truth value of a key; false unless stated. -/
def flag (j : Json) (key : String) : Bool := ((j.get? key).bind bool?).getD false

/-- The items of a key; none unless stated. -/
def itemsOf (j : Json) (key : String) : List Json := ((j.get? key).bind arr?).getD []

/-- The entries of a key; none unless stated. -/
def entriesOf (j : Json) (key : String) : List (String × Json) :=
  ((j.get? key).bind entries?).getD []

end Json

end TypeProjection
