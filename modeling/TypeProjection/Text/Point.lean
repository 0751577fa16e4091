/-!
Code points. Most are characters. The surrogates are none, but a text that is computed may hold them
as long as it is not written anywhere: no bytes stand for one.
-/

namespace TypeProjection.Text

/-- A code point that is no character. -/
structure Surrogate where
  code : Nat
  bounds : 0xd800 ≤ code ∧ code < 0xe000
  deriving DecidableEq, Repr

/-- A code point. -/
inductive Point where
  | char (c : Char)
  | surrogate (s : Surrogate)
  deriving DecidableEq, Repr

namespace Point

/-- The number of a code point. -/
def code : Point → Nat
  | char c => c.toNat
  | surrogate s => s.code

/-- The code point with a number; the first one if the number is too great. -/
def ofCode (n : Nat) : Point :=
  if h : 0xd800 ≤ n ∧ n < 0xe000 then .surrogate ⟨n, h⟩ else .char (Char.ofNat n)

/-- The character that a code point is, if it is one. -/
def char? : Point → Option Char
  | char c => some c
  | surrogate _ => none

/-- Is it a surrogate? -/
def isSurrogate (p : Point) : Bool := p.char?.isNone

/-- Is it the first half of a pair? -/
def isHigh (p : Point) : Bool := 0xd800 ≤ p.code && p.code < 0xdc00

/-- Is it the second half of a pair? -/
def isLow (p : Point) : Bool := 0xdc00 ≤ p.code && p.code < 0xe000

end Point

/-- The code points of a text. -/
def points (s : String) : List Point := s.toList.map .char

/-- The text of code points, unless there is a surrogate among them. -/
def ofPoints? (ps : List Point) : Option String := (ps.mapM Point.char?).map String.ofList

/-- Code points with each run of characters changed; `run` is the one before them, reversed. -/
def changeRuns (f : List Char → List Char) : List Char → List Point → List Point
  | run, [] => (f run.reverse).map .char
  | run, .char c :: rest => changeRuns f (c :: run) rest
  | run, p :: rest => (f run.reverse).map .char ++ p :: changeRuns f [] rest

/-- Where a run of surrogates begins that is the first, and how long it is. -/
def surrogateRun (ps : List Point) : Nat × Nat :=
  let before := (ps.takeWhile fun p => !p.isSurrogate).length
  (before, ((ps.drop before).takeWhile Point.isSurrogate).length)

end TypeProjection.Text
