/-!
Blank characters and line boundaries. `strip` removes blanks from both ends, and `lines` cuts a
text at every line boundary, with a carriage return and a line feed counted as one boundary.
-/

namespace TypeProjection.Text

/-- The characters that stripping removes: the white space of the Unicode standard and the four
information separators. -/
def isBlank (c : Char) : Bool :=
  let n := c.toNat
  (9 ≤ n && n ≤ 13) || (28 ≤ n && n ≤ 32) || n == 133 || n == 160 || n == 5760 ||
    (8192 ≤ n && n ≤ 8202) || n == 8232 || n == 8233 || n == 8239 || n == 8287 || n == 12288

/-- The characters that end a line. -/
def isLineEnd (c : Char) : Bool :=
  let n := c.toNat
  (10 ≤ n && n ≤ 13) || (28 ≤ n && n ≤ 30) || n == 133 || n == 8232 || n == 8233

/-- The text without its trailing blanks. -/
def stripRight (cs : List Char) : List Char :=
  (cs.reverse.dropWhile isBlank).reverse

/-- The text without its leading and trailing blanks. -/
def strip (cs : List Char) : List Char :=
  stripRight (cs.dropWhile isBlank)

/-- The lines of a text without their ends, `current` being the reversed start of the first. -/
def linesFrom : List Char → List Char → List (List Char)
  | [], [] => []
  | current, [] => [current.reverse]
  | current, '\r' :: '\n' :: rest => current.reverse :: linesFrom [] rest
  | current, c :: rest =>
    if isLineEnd c then current.reverse :: linesFrom [] rest else linesFrom (c :: current) rest

/-- The lines of a text. A final line end opens no further line. -/
def lines (cs : List Char) : List (List Char) := linesFrom [] cs

/-- Every line end written as `\n`, as a file opened for reading text gives it. -/
def unifyLineEnds : List Char → List Char
  | '\r' :: '\n' :: rest => '\n' :: unifyLineEnds rest
  | '\r' :: rest => '\n' :: unifyLineEnds rest
  | c :: rest => c :: unifyLineEnds rest
  | [] => []

/-- `strip` on strings. -/
def stripString (s : String) : String := String.ofList (strip s.toList)

/-- The text before and after the first `mark`, if it occurs. -/
def cutAt (mark : Char) : List Char → Option (List Char × List Char)
  | [] => none
  | c :: rest =>
    if c = mark then some ([], rest) else (cutAt mark rest).map fun (a, b) => (c :: a, b)

/-- The pieces of a text between the occurrences of `mark`; always at least one piece. -/
def pieces {α : Type} [DecidableEq α] (mark : α) : List α → List (List α)
  | [] => [[]]
  | c :: rest =>
    if c = mark then [] :: pieces mark rest
    else match pieces mark rest with
      | [] => [[c]]
      | p :: ps => (c :: p) :: ps

/-- Does `whole` start with `start`? -/
def startsWith {α : Type} [DecidableEq α] : List α → List α → Bool
  | _, [] => true
  | [], _ :: _ => false
  | c :: whole, d :: start => c == d && startsWith whole start

/-- Does `part` occur in `whole`? -/
def contains {α : Type} [DecidableEq α] (part : List α) : List α → Bool
  | [] => part.isEmpty
  | c :: rest => startsWith (c :: rest) part || contains part rest

end TypeProjection.Text
