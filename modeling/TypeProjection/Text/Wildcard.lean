/-!
Wildcards: patterns for one name. A star stands for any characters, a question mark for one, and
brackets for one of a class; a class that is not closed is an ordinary bracket.
-/

namespace TypeProjection.Text

/-- A piece of a wildcard. -/
inductive WildcardPiece where
  | star
  | any
  | char (c : Char)
  /-- One character in the ranges, or outside of them all. -/
  | oneOf (negated : Bool) (ranges : List (Char × Char))
  deriving DecidableEq, Repr

namespace WildcardPiece

/-- The chunks of a class between the hyphens that write ranges: a hyphen counts from the second
character of the class on, and then from the third one behind each that counted. -/
def chunks (needed : Nat) (current : List Char) : List Char → List (List Char)
  | [] => [current.reverse]
  | c :: rest =>
    if c == '-' && needed ≤ current.length then current.reverse :: chunks 2 [] rest
    else chunks needed (c :: current) rest

/-- A hyphen at the end of a class is one of its characters. -/
def closeChunks : List (List Char) → List (List Char)
  | [c, []] => [c ++ ['-']]
  | c :: rest => c :: closeChunks rest
  | [] => []

/-- Puts a chunk before others. Two chunks that would write an empty range become one without
its ends. -/
def putChunk (c : List Char) : List (List Char) → List (List Char)
  | [] => [c]
  | d :: rest =>
    match c.getLast?, d.head? with
    | some low, some high =>
      if high < low then (c.dropLast ++ d.tail) :: rest else c :: d :: rest
    | _, _ => c :: d :: rest

/-- The ranges that chunks write, the last character of one and the first of the next being the
ends of a range. `first` is the end of the range before, if there is one. -/
def rangesOf (low : Option Char) : List (List Char) → List (Char × Char)
  | [] => []
  | c :: rest =>
    let opened := match low, c.head? with
      | some a, some b => [(a, b)]
      | _, _ => []
    let own := if low.isSome then c.tail else c
    if rest.isEmpty then opened ++ own.map fun x => (x, x)
    else opened ++ (own.dropLast.map fun x => (x, x)) ++ rangesOf own.getLast? rest

/-- The piece that the inside of brackets writes. -/
def classOf (inside : List Char) : WildcardPiece :=
  let (negated, chars) := match inside with
    | '!' :: rest => (true, rest)
    | cs => (false, cs)
  let written := (closeChunks (chunks 1 [] chars)).foldr putChunk []
  oneOf negated (rangesOf none written)

/-- The inside of brackets and what follows them. A bracket that comes first closes nothing. -/
def cutClass (cs : List Char) : Option (List Char × List Char) :=
  let (mark, cs) := match cs with
    | '!' :: rest => (['!'], rest)
    | cs => ([], cs)
  let (first, cs) := match cs with
    | ']' :: rest => ([']'], rest)
    | cs => ([], cs)
  let inside := cs.takeWhile (· != ']')
  match cs.dropWhile (· != ']') with
  | _ :: rest => some (mark ++ first ++ inside, rest)
  | [] => none

/-- The pieces of a wildcard, with fuel for each character. -/
def piecesFrom : Nat → List Char → List WildcardPiece
  | 0, _ | _, [] => []
  | fuel + 1, '*' :: rest => star :: piecesFrom fuel rest
  | fuel + 1, '?' :: rest => any :: piecesFrom fuel rest
  | fuel + 1, '[' :: rest =>
    match cutClass rest with
    | some (inside, after) => classOf inside :: piecesFrom fuel after
    | none => char '[' :: piecesFrom fuel rest
  | fuel + 1, c :: rest => char c :: piecesFrom fuel rest

/-- Does the piece stand for a character? -/
def fits (c : Char) : WildcardPiece → Bool
  | star | any => true
  | char d => c == d
  | oneOf negated ranges => (ranges.any fun r => decide (r.1 ≤ c) && decide (c ≤ r.2)) != negated

end WildcardPiece

/-- A wildcard. -/
abbrev Wildcard := List WildcardPiece

namespace Wildcard

/-- The wildcard that a text writes. -/
def ofText (s : String) : Wildcard := WildcardPiece.piecesFrom s.length s.toList

/-- The ends of a list, the list itself first. -/
def ends : List Char → List (List Char)
  | [] => [[]]
  | c :: rest => (c :: rest) :: ends rest

/-- Does the wildcard stand for exactly these characters? -/
def matchesChars : Wildcard → List Char → Bool
  | [], cs => cs.isEmpty
  | .star :: rest, cs => (ends cs).any fun e => matchesChars rest e
  | p :: rest, cs =>
    match cs with
    | [] => false
    | c :: more => p.fits c && matchesChars rest more

/-- Does the wildcard stand for the text? -/
def matchesText (w : Wildcard) (s : String) : Bool := matchesChars w s.toList

end Wildcard

/-- Does a text hold a character that writes a wildcard? -/
def hasWildcard (s : String) : Bool := s.toList.any fun c => c == '*' || c == '?' || c == '['

end TypeProjection.Text
