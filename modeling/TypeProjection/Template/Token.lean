import TypeProjection.Template.Fault
import TypeProjection.Text.Blank
import TypeProjection.Text.CodeTable
import TypeProjection.Text.Identifier
import TypeProjection.Text.Word

/-!
Tokens of a template. Text stands between tags; a tag at the start of a line swallows the blanks
before it and the line end after it, and a minus sign on either side of a tag swallows all blanks
there. A fault ends the list of tokens, so that whoever reads the tokens meets it in its place.
-/

namespace TypeProjection.Template

/-- A token. -/
inductive Token where
  | text (value : String)
  | outputBegin
  | outputEnd
  | blockBegin
  | blockEnd
  | name (value : String)
  | string (value : List Text.Point)
  | integer (value : Nat)
  | float (value : Binary64)
  | op (symbol : String)
  | fault (cause : Fault)
  deriving Repr

/-- A token as messages name it. -/
def Token.describe : Token → String
  | .text _ => "template data / text"
  | .outputBegin => "begin of print statement"
  | .outputEnd => "end of print statement"
  | .blockBegin => "begin of statement block"
  | .blockEnd => "end of statement block"
  | .name value => value
  | .string _ => "string"
  | .integer _ => "integer"
  | .float _ => "float"
  | .op symbol => symbol
  | .fault cause => cause.message

namespace Lexer

/-- The tags that open something. -/
inductive Tag where
  | output | block | comment | raw
  deriving DecidableEq, Repr

/-- The sign that a tag may carry. -/
inductive Sign where
  | none | minus | plus
  deriving DecidableEq, Repr

/-- What is left to read: the characters, and how many stand before them. -/
structure Rest where
  place : Nat
  chars : List Char

/-- The rest after some characters. -/
def Rest.drop (r : Rest) (n : Nat) : Rest := ⟨r.place + n, r.chars.drop n⟩

/-- How many blanks stand at the start. -/
def blanks (cs : List Char) : Nat := (cs.takeWhile Text.isBlank).length

/-- The rest after leading blanks. -/
def Rest.skipBlanks (r : Rest) : Rest := r.drop (blanks r.chars)

/-- Does the rest start with a text? -/
def Rest.starts (r : Rest) (s : String) : Bool := Text.startsWith r.chars s.toList

/-- The sign at the start of the rest, and what follows it. -/
def Rest.sign (r : Rest) : Sign × Rest :=
  if r.starts "-" then (.minus, r.drop 1) else if r.starts "+" then (.plus, r.drop 1)
  else (.none, r)

/-- What follows the end of a tag, if one stands here. `closer` are the last two characters; a
line end after them is swallowed. -/
def tagEnd? (closer : String) (r : Rest) : Option Rest :=
  if r.starts ("+" ++ closer) then some (r.drop 3)
  else if r.starts ("-" ++ closer) then some (r.drop 3).skipBlanks
  else if r.starts closer then
    let after := r.drop 2
    some (if after.starts "\n" then after.drop 1 else after)
  else none

/-- What follows the end of an output tag, which swallows no line end. -/
def outputEnd? (r : Rest) : Option Rest :=
  if r.starts "-\x7d\x7d" then some (r.drop 3).skipBlanks
  else if r.starts "\x7d\x7d" then some (r.drop 2)
  else none

/-- What follows a block tag with one word, if such a tag stands here, with its opening sign.
`close` reads its end. -/
def wordTag? (word : String) (close : Rest → Option Rest) (r : Rest) : Option (Sign × Rest) :=
  if r.starts "\x7b%" then
    let (sign, afterSign) := (r.drop 2).sign
    let inner := afterSign.skipBlanks
    if inner.starts word then
      (close (inner.drop word.length).skipBlanks).map fun after => (sign, after)
    else none
  else none

/-- The end of the tag that opens raw text. -/
def rawBeginEnd? (r : Rest) : Option Rest :=
  if r.starts "-%\x7d" then some (r.drop 3).skipBlanks
  else if r.starts "%\x7d" then some (r.drop 2)
  else none

/-- The tag that opens at the start of the rest, its sign, and what follows. -/
def opening? (r : Rest) : Option (Tag × Sign × Rest) :=
  match wordTag? "raw" rawBeginEnd? r with
  | some (sign, after) => some (.raw, sign, after)
  | none =>
    let after := (r.drop 2).sign
    if r.starts "\x7b\x7b" then some (.output, after.1, after.2)
    else if r.starts "\x7b#" then some (.comment, after.1, after.2)
    else if r.starts "\x7b%" then some (.block, after.1, after.2)
    else none

/-- The text before the first place where something is found, in reverse, and what is found. -/
def searchFrom {α : Type} (find : Rest → Option α) : Nat → List Char → Rest →
    List Char × Option α
  | 0, before, _ => (before, none)
  | fuel + 1, before, r =>
    match find r with
    | some found => (before, some found)
    | none =>
      match r.chars with
      | [] => (before, none)
      | c :: _ => searchFrom find fuel (c :: before) (r.drop 1)

/-- The text before the first place where something is found, and what is found. -/
def search {α : Type} (find : Rest → Option α) (r : Rest) : List Char × Option α :=
  let (before, found) := searchFrom find (r.chars.length + 1) [] r
  (before.reverse, found)

/-- The text before a tag without the blanks that the tag swallows. `lineStart` says that the text
starts a line. -/
def trimBefore (sign : Sign) (isOutput lineStart : Bool) (text : List Char) : List Char :=
  match sign with
  | .minus => Text.stripRight text
  | .plus => text
  | .none =>
    if isOutput then text
    else
      let line := (text.reverse.takeWhile (· != '\n')).reverse
      let kept := text.take (text.length - line.length)
      if (!kept.isEmpty || lineStart) && line.all Text.isBlank then kept else text

/-- A text token, unless the text is empty. -/
def textToken (cs : List Char) : List Token := if cs.isEmpty then [] else [.text (String.ofList cs)]

/-- Does the part of a text between two places end with a line end? -/
def endsLine (start after : Rest) : Bool :=
  (start.chars.take (after.place - start.place)).getLast? == some '\n'

/-- The decimal digits at the start, with single underscores between them: their number and the
digits alone. -/
def digitRun (isDigit : Char → Bool) : List Char → Nat × List Char
  | [] => (0, [])
  | c :: rest =>
    if isDigit c then
      let (n, ds) := digitRun isDigit rest
      (n + 1, c :: ds)
    else if c == '_' then
      match rest with
      | d :: more =>
        if isDigit d then
          let (n, ds) := digitRun isDigit more
          (n + 2, d :: ds)
        else (0, [])
      | [] => (0, [])
    else (0, [])

/-- The digits at the start, the first of which is no underscore. -/
def digitsAt (isDigit : Char → Bool) (cs : List Char) : Nat × List Char :=
  match cs with
  | c :: _ => if isDigit c then digitRun isDigit cs else (0, [])
  | [] => (0, [])

/-- The value of digits in a base. -/
def valueIn (base : Nat) (ds : List Char) : Nat :=
  ds.foldl (fun n c => n * base + Text.hexValue c) 0

/-- The exponent at the start: its length and value. -/
def exponentAt (cs : List Char) : Nat × Int :=
  match cs with
  | e :: rest =>
    if e == 'e' || e == 'E' then
      let (signLength, negative) := match rest with
        | '-' :: _ => (1, true)
        | '+' :: _ => (1, false)
        | _ => (0, false)
      let (n, ds) := digitsAt Char.isDigit (rest.drop signLength)
      if n == 0 then (0, 0)
      else
        let v : Int := valueIn 10 ds
        (1 + signLength + n, if negative then -v else v)
    else (0, 0)
  | [] => (0, 0)

/-- The floating point number at the start. -/
def floatAt? (cs : List Char) : Option (Nat × Binary64) :=
  let (whole, ds) := digitsAt Char.isDigit cs
  if whole == 0 then none
  else
    let rest := cs.drop whole
    let (places, fs) := match rest with
      | '.' :: more => digitsAt Char.isDigit more
      | _ => (0, [])
    let pointLength := if places == 0 then 0 else places + 1
    let (powerLength, power) := exponentAt (rest.drop pointLength)
    if pointLength == 0 && powerLength == 0 then none
    else some (whole + pointLength + powerLength,
      Binary64.ofDecimal false (valueIn 10 (ds ++ fs)) (power - fs.length))

/-- The integer with a base mark at the start. -/
def markedIntegerAt? (cs : List Char) : Option (Nat × Nat) :=
  match cs with
  | '0' :: mark :: rest =>
    let read (base : Nat) (isDigit : Char → Bool) : Option (Nat × Nat) :=
      let (n, ds) := digitRun isDigit rest
      if n == 0 then none else some (n + 2, valueIn base ds)
    if mark == 'b' || mark == 'B' then read 2 fun c => c == '0' || c == '1'
    else if mark == 'o' || mark == 'O' then read 8 fun c => '0' ≤ c && c ≤ '7'
    else if mark == 'x' || mark == 'X' then
      read 16 fun c => c.isDigit || ('a' ≤ c && c ≤ 'f') || ('A' ≤ c && c ≤ 'F')
    else none
  | _ => none

/-- The integer at the start. A leading zero is followed by zeros only. -/
def integerAt? (cs : List Char) : Option (Nat × Nat) :=
  match markedIntegerAt? cs with
  | some found => some found
  | none =>
    match cs with
    | '0' :: _ => some ((digitsAt (· == '0') cs).1, 0)
    | _ =>
      let (n, ds) := digitsAt Char.isDigit cs
      if n == 0 then none else some (n, valueIn 10 ds)

/-- The raw characters of a quoted text, up to its closing mark. -/
def quotedAt? (mark : Char) : List Char → Option (List Char)
  | [] => none
  | '\\' :: c :: rest => (quotedAt? mark rest).map fun cs => '\\' :: c :: cs
  | c :: rest => if c == mark then some [] else (quotedAt? mark rest).map (c :: ·)

/-- The code of an escape with a fixed count of hexadecimal digits, and what follows. -/
def hexCode? (count : Nat) (cs : List Char) : Option (Nat × List Char) :=
  let ds := cs.take count
  if ds.length == count && ds.all fun c =>
      c.isDigit || ('a' ≤ c && c ≤ 'f') || ('A' ≤ c && c ≤ 'F') then
    some (valueIn 16 ds, cs.drop count)
  else none

/-- The code points that a quoted text stands for. -/
def unescape : Nat → List Char → Except Fault (List Text.Point)
  | 0, _ => .ok []
  | _ + 1, [] => .ok []
  | fuel + 1, '\\' :: c :: rest =>
    let one (d : Char) : Except Fault (List Text.Point) :=
      (unescape fuel rest).map (.char d :: ·)
    let coded (count : Nat) (reason : String) : Except Fault (List Text.Point) :=
      match hexCode? count rest with
      | none => .error (.badEscape reason)
      | some (n, after) =>
        if 1114112 ≤ n then .error (.badEscape "illegal Unicode character")
        else (unescape fuel after).map (.ofCode n :: ·)
    if c == '\n' then unescape fuel rest
    else if c == '\\' then one '\\'
    else if c.toNat == 39 then one c
    else if c == '"' then one c
    else if c == 'a' then one (Char.ofNat 7)
    else if c == 'b' then one (Char.ofNat 8)
    else if c == 'f' then one (Char.ofNat 12)
    else if c == 'n' then one '\n'
    else if c == 'r' then one '\r'
    else if c == 't' then one '\t'
    else if c == 'v' then one (Char.ofNat 11)
    else if c == 'x' then coded 2 "truncated \\xXX escape"
    else if c == 'u' then coded 4 "truncated \\uXXXX escape"
    else if c == 'U' then coded 8 "truncated \\UXXXXXXXX escape"
    else if c == 'N' then .error (.badEscape "malformed \\N character escape")
    else if '0' ≤ c && c ≤ '7' then
      let ds := (c :: rest.take 2).takeWhile fun d => '0' ≤ d && d ≤ '7'
      (unescape fuel (rest.drop (ds.length - 1))).map (.ofCode (valueIn 8 ds) :: ·)
    else (unescape fuel rest).map fun ps => .char '\\' :: .char c :: ps
  | fuel + 1, c :: rest => (unescape fuel rest).map (.char c :: ·)

/-- The operators of one and two characters. -/
def operators : List String :=
  ["//", "**", "==", "!=", ">=", "<=", "+", "-", "/", "*", "%", "~", "[", "]", "(", ")", "\x7b",
    "\x7d", ">", "<", "=", ".", ":", "|", ",", ";"]

/-- The bracket that closes an opening one. -/
def closerOf? (symbol : String) : Option String :=
  if symbol == "(" then some ")"
  else if symbol == "[" then some "]"
  else if symbol == "\x7b" then some "\x7d"
  else none

/-- The brackets that are open after an operator. -/
def balance (opened : List String) (symbol : String) : Except Fault (List String) :=
  match closerOf? symbol with
  | some closer => .ok (closer :: opened)
  | none =>
    if symbol == ")" || symbol == "]" || symbol == "\x7d" then
      match opened with
      | [] => .error (.strayCloser symbol none)
      | expected :: outer =>
        if expected == symbol then .ok outer else .error (.strayCloser symbol (some expected))
    else .ok opened

/-- Is the character part of a name? -/
def isNameChar (c : Char) : Bool := Text.isWord c || Text.isIdentifierRest c

/-- One token inside a tag, with its length; `afterPoint` says that a point stands before it. -/
def tokenAt? (afterPoint : Bool) (cs : List Char) : Option (Nat × Except Fault Token) :=
  match if afterPoint then none else floatAt? cs with
  | some (n, x) => some (n, .ok (.float x))
  | none =>
    match integerAt? cs with
    | some (n, v) => some (n, .ok (.integer v))
    | none =>
      match cs.takeWhile isNameChar with
      | c :: word =>
        let name := c :: word
        some (name.length,
          if Text.isIdentifier name then .ok (.name (String.ofList name))
          else .error .badIdentifier)
      | [] =>
        let quoted := match cs with
          | c :: rest =>
            if c.toNat == 39 || c == '"' then (quotedAt? c rest) else none
          | [] => none
        match quoted with
        | some raw =>
          some (raw.length + 2,
            (unescape (raw.length + 1) raw).map .string)
        | none =>
          (operators.find? fun o => Text.startsWith cs o.toList).map fun o =>
            (o.length, .ok (.op o))

mutual

/-- The tokens of text and the tags in it. -/
def textTokens : Nat → Bool → Rest → List Token
  | 0, _, _ => []
  | fuel + 1, lineStart, r =>
    match search opening? r with
    | (text, none) => textToken text
    | (text, some (tag, sign, after)) =>
      let kept := textToken (trimBefore sign (tag == .output) lineStart text)
      match tag with
      | .output => kept ++ .outputBegin :: tagTokens fuel true [] false after
      | .block => kept ++ .blockBegin :: tagTokens fuel false [] false after
      | .comment =>
        if after.chars.isEmpty then kept
        else
          match search (tagEnd? "#\x7d") after with
          | (_, none) => kept ++ [.fault .openComment]
          | (_, some rest) => kept ++ textTokens fuel (endsLine after rest) rest
      | .raw =>
        if after.chars.isEmpty then kept
        else
          match search (wordTag? "endraw" (tagEnd? "%\x7d")) after with
          | (_, none) => kept ++ [.fault .openRaw]
          | (body, some (endSign, rest)) =>
            kept ++ textToken (trimBefore endSign false (endsLine r after) body) ++
              textTokens fuel (endsLine after rest) rest

/-- The tokens inside a tag, to its end and beyond. `opened` are the closers of the brackets that
are open. -/
def tagTokens : Nat → Bool → List String → Bool → Rest → List Token
  | 0, _, _, _, _ => []
  | fuel + 1, isOutput, opened, afterPoint, r =>
    let close :=
      if opened.isEmpty then (if isOutput then outputEnd? r else tagEnd? "%\x7d" r) else none
    match close with
    | some after =>
      (if isOutput then .outputEnd else .blockEnd) :: textTokens fuel (endsLine r after) after
    | none =>
      match r.chars with
      | [] => []
      | c :: _ =>
        if Text.isBlank c then tagTokens fuel isOutput opened false r.skipBlanks
        else
          match tokenAt? afterPoint r.chars with
          | none => [.fault (.strayCharacter c r.place)]
          | some (_, .error cause) => [.fault cause]
          | some (n, .ok token) =>
            match token with
            | .op symbol =>
              match balance opened symbol with
              | .error cause => [.fault cause]
              | .ok opened => token :: tagTokens fuel isOutput opened (symbol == ".") (r.drop n)
            | _ => token :: tagTokens fuel isOutput opened false (r.drop n)

end

end Lexer

/-- The tokens of a template. -/
def tokens (source : String) : List Token :=
  let cs := Text.unifyLineEnds source.toList
  Lexer.textTokens (cs.length + 1) true ⟨0, cs⟩

end TypeProjection.Template
