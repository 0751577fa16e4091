import TypeProjection.Json.Basic
import TypeProjection.Pairs
import TypeProjection.Text.CodeTable

/-!
Reading JSON text. A step reads one value from the start of a text and returns what follows. Of two
entries with one key the later counts, at the place of the first. The three numbers that are not
finite have names.
-/

namespace TypeProjection.Json

/-- The characters that may stand between tokens. -/
def isSpace (c : Char) : Bool := c == ' ' || c == '\t' || c == '\n' || c == '\r'

/-- The text after leading spaces. -/
def skipSpace (cs : List Char) : List Char := cs.dropWhile isSpace

/-- The value of a run of decimal digits. -/
def digitsValue (cs : List Char) : Nat := cs.foldl (fun n c => n * 10 + (c.toNat - 48)) 0

/-- The four hexadecimal digits at the start of a text. -/
def codeUnit : List Char → Option (Nat × List Char)
  | a :: b :: c :: d :: rest =>
    if [a, b, c, d].all fun x =>
        x.isDigit || ('a' ≤ x && x ≤ 'f') || ('A' ≤ x && x ≤ 'F') then
      some ([a, b, c, d].foldl (fun n x => n * 16 + Text.hexValue x) 0, rest)
    else none
  | _ => none

/-- The code point of a pair of surrogates. -/
def pairCode (high low : Nat) : Nat := 65536 + (high - 55296) * 1024 + (low - 56320)

/-- The code point of an escape with a code unit; the two halves of a pair make one character. -/
def escapedUnit (cs : List Char) : Option (Text.Point × List Char) := do
  let (n, rest) ← codeUnit cs
  let alone := (Text.Point.ofCode n, rest)
  if 55296 ≤ n && n < 56320 then
    match rest with
    | '\\' :: 'u' :: more =>
      match codeUnit more with
      | some (low, after) =>
        if 56320 ≤ low && low < 57344 then some (.char (Char.ofNat (pairCode n low)), after)
        else some alone
      | none => some alone
    | _ => some alone
  else some alone

/-- The character of an escape with one letter. -/
def escapeLetter? : Char → Option Char
  | '"' => some '"'
  | '\\' => some '\\'
  | '/' => some '/'
  | 'b' => some (Char.ofNat 8)
  | 'f' => some (Char.ofNat 12)
  | 'n' => some '\n'
  | 'r' => some '\r'
  | 't' => some '\t'
  | _ => none

/-- The rest of a text in quotation marks, with the code points read so far in reverse. -/
def readText : Nat → List Text.Point → List Char → Option (List Text.Point × List Char)
  | 0, _, _ => none
  | fuel + 1, done, cs =>
    match cs with
    | '"' :: rest => some (done.reverse, rest)
    | '\\' :: 'u' :: rest =>
      match escapedUnit rest with
      | some (p, after) => readText fuel (p :: done) after
      | none => none
    | '\\' :: c :: rest =>
      match escapeLetter? c with
      | some d => readText fuel (.char d :: done) rest
      | none => none
    | c :: rest => if c.toNat < 32 then none else readText fuel (.char c :: done) rest
    | [] => none

/-- The text of a key. The character for what is no text stands for each surrogate. -/
def keyOf (ps : List Text.Point) : String :=
  String.ofList (ps.map fun p => p.char?.getD (Char.ofNat 65533))

/-- The digits at the start of a text, at least one. -/
def someDigits (cs : List Char) : Option (List Char × List Char) :=
  match cs.takeWhile Char.isDigit with
  | [] => none
  | ds => some (ds, cs.dropWhile Char.isDigit)

/-- The exponent at the start of a text, if one stands there. -/
def exponent? : List Char → Option (Int × List Char)
  | e :: rest =>
    if e == 'e' || e == 'E' then
      match rest with
      | '-' :: more => (someDigits more).map fun (ds, after) => (-(digitsValue ds : Int), after)
      | '+' :: more => (someDigits more).map fun (ds, after) => ((digitsValue ds : Int), after)
      | _ => (someDigits rest).map fun (ds, after) => ((digitsValue ds : Int), after)
    else none
  | [] => none

/-- The digits of a fraction at the start of a text, if one stands there. -/
def fraction? : List Char → Option (List Char × List Char)
  | '.' :: rest => someDigits rest
  | _ => none

/-- A number without its sign. A leading zero stands alone. -/
def readNumber (negative : Bool) (cs : List Char) : Option (Json × List Char) := do
  let (whole, rest) ← match cs with
    | '0' :: rest => some (['0'], rest)
    | _ => someDigits cs
  let fraction := fraction? rest
  let afterFraction := (fraction.map (·.2)).getD rest
  let power := exponent? afterFraction
  let after := (power.map (·.2)).getD afterFraction
  if fraction.isNone && power.isNone then
    let n : Int := digitsValue whole
    some (.int (if negative then -n else n), after)
  else
    let places := (fraction.map (·.1)).getD []
    let scale := (power.map (·.1)).getD 0 - places.length
    some (.float (Binary64.ofDecimal negative (digitsValue (whole ++ places)) scale), after)

/-- The text after a word, if the text starts with it. -/
def afterWord? : List Char → List Char → Option (List Char)
  | [], rest => some rest
  | w :: word, c :: rest => if w == c then afterWord? word rest else none
  | _ :: _, [] => none

/-- The values that are written as a word. -/
def words : List (String × Json) :=
  [("null", .null), ("true", .bool true), ("false", .bool false), ("NaN", .float .nan),
    ("Infinity", .float (.infinite false)), ("-Infinity", .float (.infinite true))]

/-- The word at the start of a text. -/
def readWord (cs : List Char) : Option (Json × List Char) :=
  words.findSome? fun w => (afterWord? w.1.toList cs).map fun rest => (w.2, rest)

mutual

/-- Reads a value. -/
def readValue : Nat → List Char → Option (Json × List Char)
  | 0, _ => none
  | fuel + 1, cs =>
    match cs with
    | '"' :: rest => (readText (rest.length + 1) [] rest).map fun (ps, after) => (.ofPoints ps, after)
    | '[' :: rest =>
      match skipSpace rest with
      | ']' :: after => some (.arr [], after)
      | items => (readItems fuel items).map fun (js, after) => (.arr js, after)
    | '\x7b' :: rest =>
      match skipSpace rest with
      | '\x7d' :: after => some (.obj [], after)
      | entries => (readEntries fuel [] entries).map fun (es, after) => (.obj es, after)
    | '-' :: rest => (readNumber true rest).orElse fun _ => readWord cs
    | _ => (readNumber false cs).orElse fun _ => readWord cs

/-- Reads the items of an array and its closing bracket. -/
def readItems : Nat → List Char → Option (List Json × List Char)
  | 0, _ => none
  | fuel + 1, cs => do
    let (j, rest) ← readValue fuel (skipSpace cs)
    match skipSpace rest with
    | ',' :: more =>
      let (js, after) ← readItems fuel more
      some (j :: js, after)
    | ']' :: after => some ([j], after)
    | _ => none

/-- Reads the entries of an object and its closing brace. -/
def readEntries : Nat → List (String × Json) → List Char →
    Option (List (String × Json) × List Char)
  | 0, _, _ => none
  | fuel + 1, done, cs =>
    match skipSpace cs with
    | '"' :: rest => do
      let (points, afterKey) ← readText (rest.length + 1) [] rest
      let key := keyOf points
      match skipSpace afterKey with
      | ':' :: value => do
        let (j, more) ← readValue fuel (skipSpace value)
        match skipSpace more with
        | ',' :: next => readEntries fuel (putPair key j done) next
        | '\x7d' :: after => some (putPair key j done, after)
        | _ => none
      | _ => none
    | _ => none

end

/-- The value that a whole text writes. -/
def parse (s : String) : Option Json :=
  let cs := skipSpace s.toList
  match readValue (cs.length + 1) cs with
  | some (j, rest) => if (skipSpace rest).isEmpty then some j else none
  | none => none

end TypeProjection.Json
