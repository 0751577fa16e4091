import TypeProjection.Number.Binary64
import TypeProjection.Text.Printable
import TypeProjection.Text.Quoted

/-!
Literal values: what an enumeration member can hold. `display` writes a value the way it is written
in an expression, `text` the way it is printed, and `enumText` as the right side of an enumeration
field: integers stay numbers, and all else becomes a quoted text.
-/

namespace TypeProjection

/-- A value that can be written down. -/
inductive Literal where
  | none
  | bool (value : Bool)
  | int (value : Int)
  | float (value : Binary64)
  /-- A text, which may hold surrogates. -/
  | str (value : List Text.Point)
  | bytes (value : List Nat)
  | list (items : List Literal)
  | tuple (items : List Literal)
  /-- A value known by its display alone. -/
  | other (display : String)
  deriving Inhabited, Repr

namespace Text

/-- The quotation mark for a text: the single one, unless only the double one is free. -/
def quoteMark (codes : List Nat) : Char :=
  if codes.contains 39 && !codes.contains 34 then '"' else Char.ofNat 39

/-- A backslash escape with a fixed count of hexadecimal digits. -/
def hexEscape (kind : Char) (count n : Nat) : List Char := '\\' :: kind :: hexDigits count n

/-- One character of a displayed text. -/
def displayChar (mark c : Char) : List Char :=
  let n := c.toNat
  if c == mark || n == 92 then ['\\', c]
  else if n == 10 then ['\\', 'n']
  else if n == 13 then ['\\', 'r']
  else if n == 9 then ['\\', 't']
  else if n < 32 || n == 127 then hexEscape 'x' 2 n
  else if n < 127 || isPrintable c then [c]
  else if n < 256 then hexEscape 'x' 2 n
  else if n < 65536 then hexEscape 'u' 4 n
  else hexEscape 'U' 8 n

/-- One code point of a displayed text. -/
def displayPoint (mark : Char) : Point → List Char
  | .char c => displayChar mark c
  | .surrogate s => hexEscape 'u' 4 s.code

/-- Code points as an expression writes them. -/
def displayPoints (ps : List Point) : String :=
  let mark := quoteMark (ps.map Point.code)
  String.ofList (mark :: ps.flatMap (displayPoint mark) ++ [mark])

/-- A text as an expression writes it. -/
def display (s : String) : String := displayPoints (points s)

/-- One byte of a displayed byte string. -/
def displayByte (mark : Char) (n : Nat) : List Char :=
  if n == mark.toNat || n == 92 then ['\\', Char.ofNat n]
  else if n == 10 then ['\\', 'n']
  else if n == 13 then ['\\', 'r']
  else if n == 9 then ['\\', 't']
  else if 32 ≤ n && n < 127 then [Char.ofNat n]
  else hexEscape 'x' 2 n

/-- A byte string as an expression writes it. -/
def displayBytes (bytes : List Nat) : String :=
  let mark := quoteMark bytes
  String.ofList ('b' :: mark :: bytes.flatMap (displayByte mark) ++ [mark])

/-- Items between brackets. -/
def bracketed (items : List String) : String := "[" ++ String.intercalate ", " items ++ "]"

/-- Items between parentheses; a comma marks a single one. -/
def parenthesized (items : List String) : String :=
  match items with
  | [item] => "(" ++ item ++ ",)"
  | _ => "(" ++ String.intercalate ", " items ++ ")"

/-- The names of the two truth values. -/
def truth (b : Bool) : String := if b then "True" else "False"

end Text

namespace Literal

/-- A value as an expression writes it. -/
def display : Literal → String
  | .none => "None"
  | .bool b => Text.truth b
  | .int n => toString n
  | .float x => x.text
  | .str ps => Text.displayPoints ps
  | .bytes bs => Text.displayBytes bs
  | .list items => Text.bracketed (displayAll items)
  | .tuple items => Text.parenthesized (displayAll items)
  | .other d => d
where
  displayAll : List Literal → List String
    | [] => []
    | x :: rest => x.display :: displayAll rest

/-- A value as it is printed: texts stand for themselves. -/
def text : Literal → List Text.Point
  | .str ps => ps
  | v => Text.points v.display

/-- The right side of an enumeration field. -/
def enumText : Literal → String
  | .int n => toString n
  | .bool b => if b then "1" else "0"
  | v => Text.quote v.text

/-- The integer or floating point number that a value counts as. -/
def number? : Literal → Option (Int ⊕ Binary64)
  | .bool b => some (.inl (if b then 1 else 0))
  | .int n => some (.inl n)
  | .float x => some (.inr x)
  | _ => Option.none

/-- Are two numbers equal? An integer equals the floating point number of the same value. -/
def sameNumber : Int ⊕ Binary64 → Int ⊕ Binary64 → Bool
  | .inl n, .inl m => n == m
  | .inl n, .inr x => x.toInt? == some n
  | .inr x, .inl n => x.toInt? == some n
  | .inr x, .inr y => x.equals y

/-- Are two values equal? Numbers are compared by value, whatever their kind. -/
def equals : Literal → Literal → Bool
  | .none, .none => true
  | .str s, .str t => s == t
  | .bytes s, .bytes t => s == t
  | .list xs, .list ys => equalAll xs ys
  | .tuple xs, .tuple ys => equalAll xs ys
  | .other s, .other t => s == t
  | x, y =>
    match x.number?, y.number? with
    | some n, some m => sameNumber n m
    | _, _ => false
where
  equalAll : List Literal → List Literal → Bool
    | [], [] => true
    | x :: xs, y :: ys => x.equals y && equalAll xs ys
    | _, _ => false

end Literal

end TypeProjection
