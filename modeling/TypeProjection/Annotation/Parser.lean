import TypeProjection.Annotation.Syntax
import TypeProjection.Text.Blank
import TypeProjection.Text.CodeTable
import TypeProjection.Text.Identifier
import TypeProjection.Text.Word

/-!
Reading annotation text. A text is one expression; blanks may follow it but not come before it.
What cannot be read has no meaning at all, so there is no more to a failure than that it happened.
-/

namespace TypeProjection.Annotation

/-- A token of annotation text. -/
inductive Token where
  | name (value : String)
  | keyword (value : String)
  | literal (value : Expr)
  | op (symbol : String)
  | lineEnd
  deriving Repr, Inhabited

namespace Reader

/-- The words that cannot be names. -/
def keywords : List String :=
  ["False", "None", "True", "and", "as", "assert", "async", "await", "break", "class", "continue",
    "def", "del", "elif", "else", "except", "finally", "for", "from", "global", "if", "import",
    "in", "is", "lambda", "nonlocal", "not", "or", "pass", "raise", "return", "try", "while",
    "with", "yield"]

/-- The operators, longer ones first. -/
def operators : List String :=
  ["...", "**", "//", "<<", ">>", "<=", ">=", "==", "!=", "(", ")", "[", "]", "\x7b", "\x7d", ",",
    ":", ".", "|", "&", "^", "~", "+", "-", "*", "/", "%", "@", "<", ">", "="]

/-- The digits at the start, with single underscores between them: their count with the
underscores, and the digits alone. -/
def digitsAt (isDigit : Char → Bool) : List Char → Nat × List Char
  | [] => (0, [])
  | c :: rest =>
    if isDigit c then
      let (n, ds) := digitsAt isDigit rest
      (n + 1, c :: ds)
    else if c == '_' then
      match rest with
      | d :: more =>
        if isDigit d then
          let (n, ds) := digitsAt isDigit more
          (n + 2, d :: ds)
        else (0, [])
      | [] => (0, [])
    else (0, [])

/-- The value of digits in a base. -/
def valueIn (base : Nat) (ds : List Char) : Nat :=
  ds.foldl (fun n c => n * base + Text.hexValue c) 0

/-- Is the character a hexadecimal digit? -/
def isHex (c : Char) : Bool := c.isDigit || ('a' ≤ c && c ≤ 'f') || ('A' ≤ c && c ≤ 'F')

/-- The integer with a base mark at the start, with its length. -/
def markedInteger? (cs : List Char) : Option (Nat × Expr) :=
  match cs with
  | '0' :: mark :: rest =>
    let read (base : Nat) (isDigit : Char → Bool) : Option (Nat × Expr) :=
      let (n, ds) := digitsAt isDigit rest
      if n == 0 then none else some (n + 2, .int (valueIn base ds))
    if mark == 'b' || mark == 'B' then read 2 fun c => c == '0' || c == '1'
    else if mark == 'o' || mark == 'O' then read 8 fun c => '0' ≤ c && c ≤ '7'
    else if mark == 'x' || mark == 'X' then read 16 isHex
    else none
  | _ => none

/-- The exponent at the start: its length and value. -/
def exponentAt (cs : List Char) : Nat × Int :=
  match cs with
  | e :: rest =>
    if e == 'e' || e == 'E' then
      let (signLength, negative) := match rest with
        | '-' :: _ => (1, true)
        | '+' :: _ => (1, false)
        | _ => (0, false)
      let (n, ds) := digitsAt Char.isDigit (rest.drop signLength)
      if n == 0 then (0, 0)
      else
        let v : Int := valueIn 10 ds
        (1 + signLength + n, if negative then -v else v)
    else (0, 0)
  | [] => (0, 0)

/-- The decimal number at the start, with its length. An integer other than zero has no leading
zero. -/
def decimal? (cs : List Char) : Option (Nat × Expr) :=
  let (whole, ds) := match cs with
    | '_' :: _ => (0, [])
    | _ => digitsAt Char.isDigit cs
  let rest := cs.drop whole
  let (pointLength, fs) := match rest with
    | '.' :: more =>
      let (n, fs) := match more with
        | '_' :: _ => (0, [])
        | _ => digitsAt Char.isDigit more
      if whole == 0 && n == 0 then (0, []) else (n + 1, fs)
    | _ => (0, [])
  if whole == 0 && pointLength == 0 then none
  else
    let (powerLength, power) := exponentAt (rest.drop pointLength)
    let length := whole + pointLength + powerLength
    if pointLength == 0 && powerLength == 0 then
      if ds.head? == some '0' && ds.any (· != '0') then none
      else some (length, .int (valueIn 10 ds))
    else
      some (length, .float (Binary64.ofDecimal false (valueIn 10 (ds ++ fs)) (power - fs.length)))

/-- The number at the start, with its length. No name may follow it directly. -/
def number? (cs : List Char) : Option (Nat × Expr) :=
  let found := (markedInteger? cs).orElse fun _ => decimal? cs
  match found with
  | some (n, e) =>
    match (cs.drop n).head? with
    | some c => if Text.isIdentifierRest c then none else some (n, e)
    | none => some (n, e)
  | none => none

/-- The code of an escape with a fixed count of hexadecimal digits, and what follows. -/
def hexCode? (count : Nat) (cs : List Char) : Option (Nat × List Char) :=
  let ds := cs.take count
  if ds.length == count && ds.all isHex then some (valueIn 16 ds, cs.drop count) else none

/-- The codes that the inside of a quoted text stands for. Byte strings have fewer escapes. -/
def unescape (isBytes : Bool) : Nat → List Char → Option (List Nat)
  | 0, _ => some []
  | _ + 1, [] => some []
  | fuel + 1, '\\' :: c :: rest =>
    let one (n : Nat) : Option (List Nat) := (unescape isBytes fuel rest).map (n :: ·)
    let coded (count : Nat) : Option (List Nat) :=
      match hexCode? count rest with
      | none => none
      | some (n, after) => (unescape isBytes fuel after).map (n :: ·)
    let kept : Option (List Nat) :=
      (unescape isBytes fuel rest).map fun ns => 92 :: c.toNat :: ns
    if c == '\n' then unescape isBytes fuel rest
    else if c == '\\' || c.toNat == 39 || c == '"' then one c.toNat
    else if c == 'a' then one 7
    else if c == 'b' then one 8
    else if c == 'f' then one 12
    else if c == 'n' then one 10
    else if c == 'r' then one 13
    else if c == 't' then one 9
    else if c == 'v' then one 11
    else if c == 'x' then coded 2
    else if c == 'u' then (if isBytes then kept else coded 4)
    else if c == 'U' then (if isBytes then kept else coded 8)
    else if c == 'N' then (if isBytes then kept else none)
    else if '0' ≤ c && c ≤ '7' then
      let ds := (c :: rest.take 2).takeWhile fun d => '0' ≤ d && d ≤ '7'
      (unescape isBytes fuel (rest.drop (ds.length - 1))).map (valueIn 8 ds :: ·)
    else kept
  | fuel + 1, c :: rest => (unescape isBytes fuel rest).map (c.toNat :: ·)

/-- The raw inside of a quoted text up to its closing mark, which is one or three characters
long; only the longer one may span lines. -/
def quotedInside (mark : List Char) : List Char → Option (List Char)
  | [] => none
  | '\\' :: c :: rest => (quotedInside mark rest).map fun cs => '\\' :: c :: cs
  | c :: rest =>
    if Text.startsWith (c :: rest) mark then some []
    else if c == '\n' && mark.length == 1 then none
    else (quotedInside mark rest).map (c :: ·)

/-- The mark that a quoted text starts with. -/
def markOf? (cs : List Char) : Option (List Char) :=
  match cs with
  | c :: rest =>
    if c.toNat == 39 || c == '"' then
      some (if Text.startsWith rest [c, c] then [c, c, c] else [c])
    else none
  | [] => none

/-- The quoted text at the start, with its length. Letters before it say how to read it. -/
def quoted? (cs : List Char) : Option (Nat × Expr) :=
  let letters := (cs.take 2).takeWhile fun c => "rRbBuU".toList.contains c
  let shape := String.ofList (letters.map Char.toLower)
  let rest := cs.drop letters.length
  match markOf? rest with
  | none => none
  | some mark =>
    if !(["", "r", "b", "u", "rb", "br"].contains shape) then none
    else
      match quotedInside mark (rest.drop mark.length) with
      | none => none
      | some inside =>
        let isRaw := shape == "r" || shape == "rb" || shape == "br"
        let isBytes := shape == "b" || shape == "rb" || shape == "br"
        let codes := if isRaw then some (inside.map Char.toNat)
          else unescape isBytes (inside.length + 1) inside
        let length := letters.length + 2 * mark.length + inside.length
        match codes with
        | none => none
        | some ns =>
          if isBytes then
            if inside.all fun c => c.toNat < 128 then some (length, .bytes (ns.map (· % 256)))
            else none
          else if ns.all fun n => n < 1114112 then
            some (length, .str (String.ofList (ns.map Char.ofNat)))
          else none

/-- How the brackets that are open change with an operator. -/
def depthAfter (depth : Nat) (symbol : String) : Nat :=
  if symbol == "(" || symbol == "[" || symbol == "\x7b" then depth + 1
  else if symbol == ")" || symbol == "]" || symbol == "\x7d" then depth - 1
  else depth

/-- The tokens of a text, if all of it can be read. Inside brackets a line end counts as a
blank. -/
def tokens? : Nat → Nat → List Char → Option (List Token)
  | 0, _, _ => none
  | _ + 1, _, [] => some []
  | fuel + 1, depth, c :: rest =>
    if c == ' ' || c == '\t' || c == '\x0c' then tokens? fuel depth rest
    else if c == '\\' then
      match rest with
      | '\n' :: more => tokens? fuel depth more
      | _ => none
    else if c == '#' then tokens? fuel depth (rest.dropWhile (· != '\n'))
    else if c == '\n' then
      if depth == 0 then (tokens? fuel depth rest).map (.lineEnd :: ·) else tokens? fuel depth rest
    else
      match quoted? (c :: rest) with
      | some (n, e) => (tokens? fuel depth (rest.drop (n - 1))).map (.literal e :: ·)
      | none =>
        if Text.isIdentifierStart c then
          let word := (c :: rest).takeWhile Text.isIdentifierRest
          let name := String.ofList word
          let token := if keywords.contains name then Token.keyword name
            else .name (Text.normalForm name)
          (tokens? fuel depth (rest.drop (word.length - 1))).map (token :: ·)
        else
          match number? (c :: rest) with
          | some (n, e) => (tokens? fuel depth (rest.drop (n - 1))).map (.literal e :: ·)
          | none =>
            match operators.find? fun o => Text.startsWith (c :: rest) o.toList with
            | some o =>
              (tokens? fuel (depthAfter depth o) (rest.drop (o.length - 1))).map (.op o :: ·)
            | none => none

/-- Is the token at the front an operator? -/
def isOp (symbol : String) : List Token → Bool
  | .op s :: _ => s == symbol
  | _ => false

/-- Is the token at the front a keyword? -/
def isKeyword (word : String) : List Token → Bool
  | .keyword s :: _ => s == word
  | _ => false

/-- What follows an operator that must come. -/
def after? (symbol : String) (ts : List Token) : Option (List Token) :=
  if isOp symbol ts then some ts.tail else none

/-- The operators of each level that are written between operands, the loosest first. The level of
unions is told apart. -/
def levels : List (List String) :=
  [["|"], ["^"], ["&"], ["<<", ">>"], ["+", "-"], ["*", "/", "//", "%", "@"]]

/-- An operation on two operands. -/
def combine (symbol : String) (left right : Expr) : Expr :=
  if symbol == "|" then .either left right else .operation symbol [left, right]

/-- The comparison at the front: its symbol, and what follows. -/
def comparison? : List Token → Option (String × List Token)
  | .op s :: rest =>
    if ["<", ">", "<=", ">=", "==", "!="].contains s then some (s, rest) else none
  | .keyword "in" :: rest => some ("in", rest)
  | .keyword "not" :: .keyword "in" :: rest => some ("not in", rest)
  | .keyword "is" :: .keyword "not" :: rest => some ("is not", rest)
  | .keyword "is" :: rest => some ("is", rest)
  | _ => none

mutual

/-- Reads an expression: a condition between two, or less. -/
def expression : Nat → List Token → Option (Expr × List Token)
  | 0, _ => none
  | fuel + 1, ts => do
    let (e, rest) ← disjunction fuel ts
    if isKeyword "if" rest then
      let (condition, rest) ← disjunction fuel rest.tail
      if isKeyword "else" rest then
        let (other, rest) ← expression fuel rest.tail
        some (.operation "if" [e, condition, other], rest)
      else none
    else some (e, rest)

/-- Reads a disjunction. -/
def disjunction : Nat → List Token → Option (Expr × List Token)
  | 0, _ => none
  | fuel + 1, ts => do
    let (e, rest) ← conjunction fuel ts
    if isKeyword "or" rest then
      let (other, rest) ← disjunction fuel rest.tail
      some (.operation "or" [e, other], rest)
    else some (e, rest)

/-- Reads a conjunction. -/
def conjunction : Nat → List Token → Option (Expr × List Token)
  | 0, _ => none
  | fuel + 1, ts => do
    let (e, rest) ← negation fuel ts
    if isKeyword "and" rest then
      let (other, rest) ← conjunction fuel rest.tail
      some (.operation "and" [e, other], rest)
    else some (e, rest)

/-- Reads a negation or a chain of comparisons. -/
def negation : Nat → List Token → Option (Expr × List Token)
  | 0, _ => none
  | fuel + 1, ts =>
    if isKeyword "not" ts then do
      let (e, rest) ← negation fuel ts.tail
      some (.operation "not " [e], rest)
    else do
      let (e, rest) ← level fuel levels ts
      comparisons fuel e rest

/-- Reads the comparisons after an operand. -/
def comparisons : Nat → Expr → List Token → Option (Expr × List Token)
  | 0, _, _ => none
  | fuel + 1, e, ts =>
    match comparison? ts with
    | none => some (e, ts)
    | some (symbol, rest) => do
      let (other, rest) ← level fuel levels rest
      comparisons fuel (.operation symbol [e, other]) rest

/-- Reads operands with the operators of one level between them. -/
def level : Nat → List (List String) → List Token → Option (Expr × List Token)
  | 0, _, _ => none
  | fuel + 1, [], ts => factor fuel ts
  | fuel + 1, symbols :: tighter, ts => do
    let (e, rest) ← level fuel tighter ts
    levelRest fuel symbols tighter e rest

/-- Reads the operators of one level and their right operands. -/
def levelRest : Nat → List String → List (List String) → Expr → List Token →
    Option (Expr × List Token)
  | 0, _, _, _, _ => none
  | fuel + 1, symbols, tighter, e, ts =>
    match ts with
    | .op s :: rest =>
      if symbols.contains s then do
        let (other, rest) ← level fuel tighter rest
        levelRest fuel symbols tighter (combine s e other) rest
      else some (e, ts)
    | _ => some (e, ts)

/-- Reads a signed operand or a power. -/
def factor : Nat → List Token → Option (Expr × List Token)
  | 0, _ => none
  | fuel + 1, ts =>
    match ts with
    | .op s :: rest =>
      if s == "-" || s == "+" || s == "~" then do
        let (e, rest) ← factor fuel rest
        some (.operation s [e], rest)
      else power fuel ts
    | _ => power fuel ts

/-- Reads a power. -/
def power : Nat → List Token → Option (Expr × List Token)
  | 0, _ => none
  | fuel + 1, ts => do
    let (e, rest) ← atom fuel ts
    let (e, rest) ← trailers fuel e rest
    if isOp "**" rest then
      let (other, rest) ← factor fuel rest.tail
      some (.operation "**" [e, other], rest)
    else some (e, rest)

/-- Reads an operand that stands for itself. -/
def atom : Nat → List Token → Option (Expr × List Token)
  | 0, _ => none
  | fuel + 1, ts =>
    match ts with
    | .name n :: rest => some (.name n, rest)
    | .keyword "None" :: rest => some (.none, rest)
    | .keyword "True" :: rest => some (.bool true, rest)
    | .keyword "False" :: rest => some (.bool false, rest)
    | .literal (.str s) :: rest => adjacent fuel s rest
    | .literal (.bytes bs) :: rest => adjacentBytes fuel bs rest
    | .literal e :: rest => some (e, rest)
    | .op "..." :: rest => some (.ellipsis, rest)
    | .op "(" :: rest => do
      let (items, single, rest) ← sequence fuel ")" rest
      match items, single with
      | [e], true => some (e, rest)
      | _, _ => some (.tuple items, rest)
    | .op "[" :: rest => do
      let (items, _, rest) ← sequence fuel "]" rest
      some (.list items, rest)
    | .op "\x7b" :: rest =>
      if isOp "\x7d" rest then some (.dict [], rest.tail)
      else do
        let (first, more) ← expression fuel rest
        if isOp ":" more then
          let (entries, rest) ← entriesFrom fuel rest
          some (.dict entries, rest)
        else
          let _ := first
          let (items, _, rest) ← sequence fuel "\x7d" rest
          some (.set items, rest)
    | _ => none

/-- Joins adjacent texts. -/
def adjacent : Nat → String → List Token → Option (Expr × List Token)
  | 0, _, _ => none
  | fuel + 1, s, ts =>
    match ts with
    | .literal (.str t) :: rest => adjacent fuel (s ++ t) rest
    | .literal (.bytes _) :: _ => none
    | _ => some (.str s, ts)

/-- Joins adjacent byte strings. -/
def adjacentBytes : Nat → List Nat → List Token → Option (Expr × List Token)
  | 0, _, _ => none
  | fuel + 1, bs, ts =>
    match ts with
    | .literal (.bytes more) :: rest => adjacentBytes fuel (bs ++ more) rest
    | .literal (.str _) :: _ => none
    | _ => some (.bytes bs, ts)

/-- Reads items with commas between them up to a closing bracket, and says whether there is a
single one without a comma. -/
def sequence : Nat → String → List Token → Option (List Expr × Bool × List Token)
  | 0, _, _ => none
  | fuel + 1, closer, ts =>
    if isOp closer ts then some ([], false, ts.tail)
    else do
      let (e, rest) ← starred fuel ts
      if isOp "," rest then
        let (items, _, rest) ← sequence fuel closer rest.tail
        some (e :: items, false, rest)
      else
        let rest ← after? closer rest
        some ([e], true, rest)

/-- Reads an item that may be unpacked. -/
def starred : Nat → List Token → Option (Expr × List Token)
  | 0, _ => none
  | fuel + 1, ts =>
    if isOp "*" ts then do
      let (e, rest) ← level fuel levels ts.tail
      some (.operation "*" [e], rest)
    else expression fuel ts

/-- Reads entries up to a closing brace. -/
def entriesFrom : Nat → List Token → Option (List (Expr × Expr) × List Token)
  | 0, _ => none
  | fuel + 1, ts =>
    if isOp "\x7d" ts then some ([], ts.tail)
    else do
      let (k, rest) ← expression fuel ts
      let rest ← after? ":" rest
      let (v, rest) ← expression fuel rest
      if isOp "," rest then
        let (entries, rest) ← entriesFrom fuel rest.tail
        some ((k, v) :: entries, rest)
      else
        let rest ← after? "\x7d" rest
        some ([(k, v)], rest)

/-- Reads attributes, subscripts and calls after an operand. -/
def trailers : Nat → Expr → List Token → Option (Expr × List Token)
  | 0, _, _ => none
  | fuel + 1, e, ts =>
    match ts with
    | .op "." :: .name n :: rest => trailers fuel (.attribute e n) rest
    | .op "[" :: rest =>
      if isOp "]" rest then none
      else do
        let (items, single, rest) ← subscripts fuel rest
        match items, single with
        | [index], true => trailers fuel (.subscript e index) rest
        | _, _ => trailers fuel (.subscript e (.tuple items)) rest
    | .op "(" :: rest => do
      let (arguments, named, rest) ← argumentsFrom fuel rest
      trailers fuel (.call e arguments named) rest
    | _ => some (e, ts)

/-- Reads subscripts up to a closing bracket. -/
def subscripts : Nat → List Token → Option (List Expr × Bool × List Token)
  | 0, _ => none
  | fuel + 1, ts =>
    if isOp "]" ts then some ([], false, ts.tail)
    else do
      let (e, rest) ← subscriptItem fuel ts
      if isOp "," rest then
        let (items, _, rest) ← subscripts fuel rest.tail
        some (e :: items, false, rest)
      else
        let rest ← after? "]" rest
        some ([e], !isOp "*" ts, rest)

/-- Reads one subscript, which may be a range. -/
def subscriptItem : Nat → List Token → Option (Expr × List Token)
  | 0, _ => none
  | fuel + 1, ts => do
    let (parts, rest) ← rangeParts fuel ts
    match parts with
    | [some e] => some (e, rest)
    | _ => some (.operation ":" (parts.filterMap id), rest)

/-- Reads the bounds of a range with colons between them; a bound may be left out. -/
def rangeParts : Nat → List Token → Option (List (Option Expr) × List Token)
  | 0, _ => none
  | fuel + 1, ts => do
    let (part, rest) ←
      if isOp ":" ts || isOp "]" ts || isOp "," ts then some (none, ts)
      else (starred fuel ts).map fun (e, rest) => (some e, rest)
    if isOp ":" rest then
      let (parts, rest) ← rangeParts fuel rest.tail
      some (part :: parts, rest)
    else some ([part], rest)

/-- Reads the arguments of a call up to its closing parenthesis. -/
def argumentsFrom : Nat → List Token →
    Option (List Expr × List (String × Expr) × List Token)
  | 0, _ => none
  | fuel + 1, ts =>
    if isOp ")" ts then some ([], [], ts.tail)
    else
      match ts with
      | .name n :: .op "=" :: rest => do
        let (e, rest) ← expression fuel rest
        let (arguments, named, rest) ← argumentsRest fuel rest
        if arguments.isEmpty then some ([], (n, e) :: named, rest) else none
      | _ => do
        let (e, rest) ← expression fuel ts
        let (arguments, named, rest) ← argumentsRest fuel rest
        some (e :: arguments, named, rest)

/-- Reads what follows an argument. -/
def argumentsRest : Nat → List Token →
    Option (List Expr × List (String × Expr) × List Token)
  | 0, _ => none
  | fuel + 1, ts =>
    if isOp ")" ts then some ([], [], ts.tail)
    else if isOp "," ts then argumentsFrom fuel ts.tail
    else none

end

/-- The text without leading lines that are blank or comments. -/
def skipBlankLines : Nat → List Char → List Char
  | 0, cs => cs
  | fuel + 1, cs =>
    let line := cs.takeWhile (· != '\n')
    let body := line.dropWhile fun c => c == ' ' || c == '\t' || c == '\x0c'
    if body.isEmpty || body.head? == some '#' then
      match cs.drop line.length with
      | [] => []
      | _ :: rest => skipBlankLines fuel rest
    else cs

/-- The expression of a text that starts at its first character. -/
def ofChars (cs : List Char) : Option Expr :=
  match tokens? (cs.length + 1) 0 cs with
  | none => none
  | some ts =>
    match outermost ts with
    | some (e, rest) => if rest.all fun | .lineEnd => true | _ => false then some e else none
    | none => none
where
  /-- Reads an expression, or a tuple without parentheses. -/
  outermost (ts : List Token) : Option (Expr × List Token) :=
    let fuel := 30 * ts.length + 60
    match expression fuel ts with
    | none => none
    | some (e, rest) =>
      if isOp "," rest then
        (moreItems fuel rest.tail).map fun (items, rest) => (.tuple (e :: items), rest)
      else some (e, rest)
  /-- Reads the items of a tuple after its first comma. -/
  moreItems : Nat → List Token → Option (List Expr × List Token)
    | 0, _ => none
    | fuel + 1, ts =>
      match expression fuel ts with
      | none => some ([], ts)
      | some (e, rest) =>
        if isOp "," rest then
          (moreItems fuel rest.tail).map fun (items, rest) => (e :: items, rest)
        else some ([e], rest)

end Reader

namespace Expr

/-- The expression that a whole text writes. The text may not start with blanks. -/
def ofText? (s : String) : Option Expr :=
  let cs := Reader.skipBlankLines (s.length + 1) (Text.unifyLineEnds s.toList)
  match cs with
  | c :: _ => if c == ' ' || c == '\t' then Option.none else Reader.ofChars cs
  | [] => Option.none

/-- The expression that a text writes, wherever it starts. -/
def ofSource? (s : String) : Option Expr :=
  Reader.ofChars ((Text.unifyLineEnds s.toList).dropWhile Text.isBlank)

end Expr

end TypeProjection.Annotation
