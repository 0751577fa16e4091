import TypeProjection.Distinct
import TypeProjection.Text.Blank
import TypeProjection.Text.Case
import TypeProjection.Text.Word

/-!
Search patterns. `ends` lists the places where a match that starts at a given place can end, and
`found` says whether a pattern matches anywhere in a text. Both are structural on the pattern: a
repetition is followed layer by layer, as often as the text has places.
-/

namespace TypeProjection.Text

/-- Classes of characters with a short escape. -/
inductive CharClass where
  | digit | space | word
  deriving DecidableEq, Repr

/-- Does a class hold the character? -/
def CharClass.holds : CharClass → Char → Bool
  | .digit, c => isDecimal c
  | .space, c => isBlank c
  | .word, c => isWord c

/-- One item of a character set. -/
inductive SetItem where
  | char (c : Char)
  | range (first last : Char)
  | category (negated : Bool) (kind : CharClass)
  deriving DecidableEq, Repr

/-- Does an item hold the character itself? -/
def SetItem.holds : SetItem → Char → Bool
  | .char d, c => c == d
  | .range first last, c => first.toNat ≤ c.toNat && c.toNat ≤ last.toNat
  | .category negated kind, c => kind.holds c != negated

/-- How a repetition chooses its count. -/
inductive Greed where
  | greedy | lazy | possessive
  deriving DecidableEq, Repr

/-- A search pattern. -/
inductive Pattern where
  | empty
  /-- Matches nowhere. -/
  | never
  | char (c : Char) (ignoreCase : Bool)
  | any (newline : Bool)
  | oneOf (negated : Bool) (items : List SetItem) (ignoreCase : Bool)
  | seq (first second : Pattern)
  | either (first second : Pattern)
  | times (least : Nat) (most : Option Nat) (greed : Greed) (item : Pattern)
  | atomic (item : Pattern)
  | lineStart (everyLine : Bool)
  | lineEnd (everyLine : Bool)
  | textStart
  | textEnd
  | wordEdge (negated : Bool)
  | ahead (negated : Bool) (item : Pattern)
  /-- Looks at the `width` characters before the current place. -/
  | behind (negated : Bool) (width : Nat) (item : Pattern)
  deriving Repr, Inhabited

namespace Pattern

/-- Does a set hold the character, in one of its cases if these are ignored? -/
def setHolds (items : List SetItem) (ignoreCase : Bool) (c : Char) : Bool :=
  items.any (·.holds c) ||
    (ignoreCase && (items.any (·.holds (fold c)) ||
      (upperChar c).any fun d => items.any (·.holds d)))

/-- Is there a word character at a place? -/
def wordAt (text : Array Char) (i : Nat) : Bool := (text[i]?.map isWord).getD false

/-- Is the character at a place, if there is one, a new line? -/
def newlineAt (text : Array Char) (i : Nat) : Bool := text[i]? == some '\n'

/-- The places reached from `here` by repeating a step up to `rounds` times, the later layers
first. -/
def layers (step : Nat → List Nat) : Nat → List Nat → List Nat
  | 0, here => here
  | rounds + 1, here =>
    let next := distinct (here.flatMap step)
    if next.isEmpty then here else layers step rounds next ++ here

/-- The places reached from `here` by exactly `count` steps. -/
def exactly (step : Nat → List Nat) : Nat → List Nat → List Nat
  | 0, here => here
  | count + 1, here => exactly step count (distinct (here.flatMap step))

/-- The ends of a repetition, the preferred one first. -/
def repeated (step : Nat → List Nat) (size least : Nat) (most : Option Nat) (greed : Greed)
    (i : Nat) : List Nat :=
  let start := exactly step least [i]
  let rounds := match most with
    | some n => n - least
    | none => size + 1
  let all := layers step (min rounds (size + 1)) start
  match greed with
  | .greedy => distinct all
  | .lazy => distinct all.reverse
  | .possessive => (distinct all).take 1

/-- The places where a match from place `i` can end, the preferred one first. -/
def ends (text : Array Char) : Pattern → Nat → List Nat
  | .empty, i => [i]
  | .never, _ => []
  | .char c ignoreCase, i =>
    match text[i]? with
    | some d => if d == c || (ignoreCase && fold d == fold c) then [i + 1] else []
    | none => []
  | .any newline, i =>
    match text[i]? with
    | some d => if newline || d != '\n' then [i + 1] else []
    | none => []
  | .oneOf negated items ignoreCase, i =>
    match text[i]? with
    | some d => if setHolds items ignoreCase d != negated then [i + 1] else []
    | none => []
  | .seq first second, i => distinct ((ends text first i).flatMap (ends text second))
  | .either first second, i => distinct (ends text first i ++ ends text second i)
  | .times least most greed item, i => repeated (ends text item) text.size least most greed i
  | .atomic item, i => (ends text item i).take 1
  | .lineStart everyLine, i =>
    if i == 0 || (everyLine && newlineAt text (i - 1)) then [i] else []
  | .lineEnd everyLine, i =>
    if i == text.size || (i + 1 == text.size && newlineAt text i) ||
      (everyLine && newlineAt text i) then [i] else []
  | .textStart, i => if i == 0 then [i] else []
  | .textEnd, i => if i == text.size then [i] else []
  | .wordEdge negated, i =>
    let before := i != 0 && wordAt text (i - 1)
    if (before != wordAt text i) != negated then [i] else []
  | .ahead negated item, i => if (ends text item i).isEmpty == negated then [i] else []
  | .behind negated width item, i =>
    let matched := width ≤ i && (ends text item (i - width)).contains i
    if matched != negated then [i] else []

/-- Does the pattern match somewhere in the text? -/
def found (p : Pattern) (text : String) : Bool :=
  let cs := text.toList.toArray
  (List.range (cs.size + 1)).any fun i => !(ends cs p i).isEmpty

/-- The count of characters that every match has, if all have the same. -/
def width? : Pattern → Option Nat
  | .empty | .lineStart _ | .lineEnd _ | .textStart | .textEnd | .wordEdge _ => some 0
  | .ahead _ _ | .behind _ _ _ => some 0
  | .never => some 0
  | .char _ _ | .any _ | .oneOf _ _ _ => some 1
  | .seq first second => do some ((← width? first) + (← width? second))
  | .either first second => do
    let a ← width? first
    let b ← width? second
    if a == b then some a else none
  | .times least most _ item => do
    let w ← width? item
    if w == 0 || most == some least then some (w * least) else none
  | .atomic item => width? item

end Pattern

end TypeProjection.Text
