import TypeProjection.Text.Identifier
import TypeProjection.Text.Pattern.Basic
import TypeProjection.Literal

/-!
Reading search patterns. A written pattern is cut into tokens, a character or an escape each, and
read by recursive descent; the fuel is the length of the text, and every step uses a token. What is
wrong with a text is an `PatternFault`, which carries the place where it shows.
-/

namespace TypeProjection.Text

/-- What can be wrong with a written pattern. -/
inductive PatternProblem where
  | endsInEscape
  | nothingToRepeat
  | multipleRepeat
  | leastAboveMost
  | countTooLarge
  | unterminatedSet
  | unterminatedGroup
  | unterminatedComment
  | unbalanced
  | unexpectedEnd
  | unknownExtension (written : String)
  | badEscape (written : String)
  | incompleteEscape (written : String)
  | octalTooLarge (written : String)
  | badRange (first last : String)
  | missingName
  | unterminatedName (mark : Char)
  | badName (name : String)
  | unknownName (name : String)
  | nameTaken (name : String) (number earlier : Nat)
  | openGroup
  | unknownGroup (number : Nat)
  | flagsNotFirst
  | unknownFlag
  | missingAfterFlags (expected : String)
  | flagNotForText
  | flagsClash
  | flagKept
  | flagTwice
  | widthVaries
  deriving Repr, DecidableEq

/-- The wording of a problem. -/
def PatternProblem.message : PatternProblem → String
  | .endsInEscape => "bad escape (end of pattern)"
  | .nothingToRepeat => "nothing to repeat"
  | .multipleRepeat => "multiple repeat"
  | .leastAboveMost => "min repeat greater than max repeat"
  | .countTooLarge => "the repetition number is too large"
  | .unterminatedSet => "unterminated character set"
  | .unterminatedGroup => "missing ), unterminated subpattern"
  | .unterminatedComment => "missing ), unterminated comment"
  | .unbalanced => "unbalanced parenthesis"
  | .unexpectedEnd => "unexpected end of pattern"
  | .unknownExtension w => "unknown extension ?" ++ w
  | .badEscape w => "bad escape " ++ w
  | .incompleteEscape w => "incomplete escape " ++ w
  | .octalTooLarge w => "octal escape value " ++ w ++ " outside of range 0-0o377"
  | .badRange a b => "bad character range " ++ a ++ "-" ++ b
  | .missingName => "missing group name"
  | .unterminatedName mark => "missing " ++ String.singleton mark ++ ", unterminated name"
  | .badName name => "bad character in group name " ++ display name
  | .unknownName name => "unknown group name " ++ display name
  | .nameTaken name number earlier =>
    "redefinition of group name " ++ display name ++ " as group " ++ toString number ++
      "; was group " ++ toString earlier
  | .openGroup => "cannot refer to an open group"
  | .unknownGroup n => "invalid group reference " ++ toString n
  | .flagsNotFirst => "global flags not at the start of the expression"
  | .unknownFlag => "unknown flag"
  | .missingAfterFlags expected => "missing " ++ expected
  | .flagNotForText => "bad inline flags: cannot use 'L' flag with a str pattern"
  | .flagsClash => "bad inline flags: flags 'a', 'u' and 'L' are incompatible"
  | .flagKept => "bad inline flags: cannot turn off flags 'a', 'u' and 'L'"
  | .flagTwice => "bad inline flags: flag turned on and off"
  | .widthVaries => "look-behind requires fixed-width pattern"

/-- A problem, and the place in the written pattern where it shows, if it has one. -/
structure PatternFault where
  problem : PatternProblem
  place : Option Nat
  written : String
  deriving Repr

/-- The wording of a fault, with line and column when the pattern has several lines. -/
def PatternFault.message (f : PatternFault) : String :=
  match f.place with
  | none => f.problem.message
  | some place =>
    let before := f.written.toList.take place
    let base := f.problem.message ++ " at position " ++ toString place
    if f.written.toList.contains '\n' then
      let line := before.count '\n' + 1
      let column := (before.reverse.takeWhile (· != '\n')).length + 1
      base ++ " (line " ++ toString line ++ ", column " ++ toString column ++ ")"
    else base

namespace Pattern

/-- A token of a written pattern: a character, an escape, or a backslash that ends the text. -/
inductive Token where
  | char (c : Char)
  | escape (c : Char)
  | danglingEscape
  deriving DecidableEq, Repr

/-- The length of a token as it is written. -/
def Token.length : Token → Nat
  | .escape _ => 2
  | _ => 1

/-- A token as it is written. -/
def Token.text : Token → String
  | .char c => String.singleton c
  | .escape c => String.ofList ['\\', c]
  | .danglingEscape => "\\"

/-- The tokens of a written pattern. -/
def tokens : List Char → List Token
  | [] => []
  | '\\' :: c :: rest => .escape c :: tokens rest
  | ['\\'] => [.danglingEscape]
  | c :: rest => .char c :: tokens rest

/-- Which readings of a pattern are switched on. -/
structure Flags where
  ignoreCase : Bool
  everyLine : Bool
  newline : Bool
  verbose : Bool
  ascii : Bool
  unicode : Bool
  deriving DecidableEq, Repr

/-- No flag is on. -/
def Flags.off : Flags := ⟨false, false, false, false, false, false⟩

/-- Flags joined. -/
def Flags.join (a b : Flags) : Flags :=
  ⟨a.ignoreCase || b.ignoreCase, a.everyLine || b.everyLine, a.newline || b.newline,
    a.verbose || b.verbose, a.ascii || b.ascii, a.unicode || b.unicode⟩

/-- Flags without some others. -/
def Flags.without (a b : Flags) : Flags :=
  ⟨a.ignoreCase && !b.ignoreCase, a.everyLine && !b.everyLine, a.newline && !b.newline,
    a.verbose && !b.verbose, a.ascii && !b.ascii, a.unicode && !b.unicode⟩

/-- Do two sets of flags share one? -/
def Flags.meet (a b : Flags) : Bool :=
  (a.ignoreCase && b.ignoreCase) || (a.everyLine && b.everyLine) || (a.newline && b.newline) ||
    (a.verbose && b.verbose) || (a.ascii && b.ascii) || (a.unicode && b.unicode)

/-- The flag that a letter stands for. -/
def Flags.ofLetter? (c : Char) : Option Flags :=
  if c == 'i' then some { Flags.off with ignoreCase := true }
  else if c == 'm' then some { Flags.off with everyLine := true }
  else if c == 's' then some { Flags.off with newline := true }
  else if c == 'x' then some { Flags.off with verbose := true }
  else if c == 'a' then some { Flags.off with ascii := true }
  else if c == 'u' then some { Flags.off with unicode := true }
  else if c == 'L' || c == 't' then some Flags.off
  else none

/-- What the reader keeps: the tokens left, the place of the next one, the flags of the whole
pattern, and the groups opened so far with their names, newest first. -/
structure Reader where
  written : String
  rest : List Token
  place : Nat
  flags : Flags
  groups : List (Option String)
  closed : List Nat

/-- A step of the reader. -/
abbrev Read := StateT Reader (Except PatternFault)

/-- Stops with a problem at a place. -/
def failAt {α : Type} (problem : PatternProblem) (place : Nat) : Read α := fun r =>
  .error ⟨problem, some place, r.written⟩

/-- The next token, if there is one. -/
def peek : Read (Option Token) := fun r => .ok (r.rest.head?, r)

/-- The place of the next token. -/
def here : Read Nat := fun r => .ok (r.place, r)

/-- Takes the next token. A backslash that ends the text is found as soon as it comes next. -/
def next : Read (Option Token) := fun r =>
  match r.rest with
  | [] => .ok (none, r)
  | t :: rest =>
    let r' := { r with rest := rest, place := r.place + t.length }
    if rest.head? == some .danglingEscape then
      .error ⟨.endsInEscape, some (r.written.length - 1), r.written⟩
    else .ok (some t, r')

/-- Takes the next token if it is the character `c`. -/
def accept (c : Char) : Read Bool := do
  if (← peek) == some (.char c) then
    let _ ← next
    return true
  else return false

/-- Takes up to `count` characters that satisfy `p`. -/
def takeWhile (p : Char → Bool) : Nat → Read (List Char)
  | 0 => return []
  | count + 1 => do
    match ← peek with
    | some (.char c) =>
      if p c then
        let _ ← next
        return c :: (← takeWhile p count)
      else return []
    | _ => return []

/-- The name up to `mark`, which is taken too. -/
def takeName (mark : Char) : Nat → List Char → Read String
  | 0, name => return String.ofList name.reverse
  | fuel + 1, name => do
    let place ← here
    match ← next with
    | none =>
      if name.isEmpty then failAt .missingName place
      else failAt (.unterminatedName mark) (place - name.length)
    | some (.char c) =>
      if c == mark then
        if name.isEmpty then failAt .missingName place
        else return String.ofList name.reverse
      else takeName mark fuel (c :: name)
    | some t => takeName mark fuel (t.text.toList.reverse ++ name)

/-- Is the character an ASCII letter? -/
def isLetter (c : Char) : Bool := c.toNat < 128 && c.isAlpha

/-- Is the character a hexadecimal digit? -/
def isHex (c : Char) : Bool :=
  c.isDigit || ('a' ≤ c && c ≤ 'f') || ('A' ≤ c && c ≤ 'F')

/-- Is the character an octal digit? -/
def isOctal (c : Char) : Bool := '0' ≤ c && c ≤ '7'

/-- The number that octal digits write. -/
def octalValue (cs : List Char) : Nat :=
  cs.foldl (fun n c => n * 8 + (c.toNat - '0'.toNat)) 0

/-- The number that hexadecimal digits write. -/
def hexNumber (cs : List Char) : Nat := cs.foldl (fun n c => n * 16 + hexValue c) 0

/-- The control character with a short escape. -/
def control? (c : Char) : Option Char :=
  if c == 'a' then some (Char.ofNat 7)
  else if c == 'f' then some (Char.ofNat 12)
  else if c == 'n' then some '\n'
  else if c == 'r' then some '\r'
  else if c == 't' then some '\t'
  else if c == 'v' then some (Char.ofNat 11)
  else if c == '\\' then some '\\'
  else none

/-- The class of characters with a short escape, and whether it is negated. -/
def category? (c : Char) : Option (Bool × CharClass) :=
  if c == 'd' then some (false, .digit)
  else if c == 'D' then some (true, .digit)
  else if c == 's' then some (false, .space)
  else if c == 'S' then some (true, .space)
  else if c == 'w' then some (false, .word)
  else if c == 'W' then some (true, .word)
  else none

/-- The character of an escape with a fixed count of hexadecimal digits. -/
def hexEscaped (c : Char) (count start : Nat) : Read Char := do
  let digits ← takeWhile isHex count
  let written := String.ofList ('\\' :: c :: digits)
  if digits.length != count then failAt (.incompleteEscape written) start
  else
    let n := hexNumber digits
    if n < 0x110000 then return Char.ofNat n else failAt (.badEscape written) start

/-- The character of an escape that means one, inside and outside of sets; `start` is the place of
its backslash. -/
def escapedChar (c : Char) (start : Nat) : Read Char := do
  if c == 'x' then hexEscaped c 2 start
  else if c == 'u' then hexEscaped c 4 start
  else if c == 'U' then hexEscaped c 8 start
  else if isLetter c then failAt (.badEscape (String.ofList ['\\', c])) start
  else return c

/-- An escape inside a set. -/
def setEscape (c : Char) (start : Nat) : Read SetItem := do
  match category? c with
  | some (negated, kind) => return .category negated kind
  | none =>
    if c == 'b' then return .char (Char.ofNat 8)
    else match control? c with
    | some d => return .char d
    | none =>
      if isOctal c then
        let digits := c :: (← takeWhile isOctal 2)
        if octalValue digits > 255 then
          failAt (.octalTooLarge (String.ofList ('\\' :: digits))) start
        else return .char (Char.ofNat (octalValue digits))
      else if c.isDigit then failAt (.badEscape (String.ofList ['\\', c])) start
      else return .char (← escapedChar c start)

/-- What stands at the end of a sequence, as far as a repetition has to know. -/
inductive Last where
  | plain | edge | repeated
  deriving DecidableEq

/-- A part of a sequence. -/
structure Part where
  pattern : Pattern
  last : Last

/-- A reference to the group with a number. What the group held is not compared. -/
def groupReference (number start : Nat) : Read Part := do
  let r ← get
  if number == 0 || number > r.groups.length then
    failAt (.unknownGroup number) (start + 1)
  else if !r.closed.contains number then failAt .openGroup start
  else return ⟨.never, .plain⟩

/-- An escape outside of sets. -/
def escapePart (c : Char) (start : Nat) (flags : Flags) : Read Part := do
  if c == 'A' then return ⟨.textStart, .edge⟩
  else if c == 'Z' then return ⟨.textEnd, .edge⟩
  else if c == 'b' then return ⟨.wordEdge false, .edge⟩
  else if c == 'B' then return ⟨.wordEdge true, .edge⟩
  else match category? c with
  | some (negated, kind) => return ⟨.oneOf false [.category negated kind] false, .plain⟩
  | none =>
    match control? c with
    | some d => return ⟨.char d flags.ignoreCase, .plain⟩
    | none =>
      if c == '0' then
        let digits ← takeWhile isOctal 2
        return ⟨.char (Char.ofNat (octalValue digits)) flags.ignoreCase, .plain⟩
      else if c.isDigit then
        let second ← takeWhile Char.isDigit 1
        let third ← if isOctal c && second.any isOctal then takeWhile isOctal 1 else pure []
        let digits := c :: second ++ third
        if third.isEmpty then
          groupReference (digits.foldl (fun n d => n * 10 + (d.toNat - '0'.toNat)) 0) start
        else if octalValue digits > 255 then
          failAt (.octalTooLarge (String.ofList ('\\' :: digits))) start
        else return ⟨.char (Char.ofNat (octalValue digits)) flags.ignoreCase, .plain⟩
      else return ⟨.char (← escapedChar c start) flags.ignoreCase, .plain⟩

/-- One end of a range, or a single item, of a set. -/
def setPoint (t : Token) (start : Nat) : Read SetItem :=
  match t with
  | .char c => pure (.char c)
  | .escape c => setEscape c start
  | .danglingEscape => pure (.char '\\')

/-- The items of a set up to its closing bracket; `opened` is the place of the opening one. -/
def setItems (opened : Nat) : Nat → List SetItem → Read (List SetItem)
  | 0, items => return items
  | fuel + 1, items => do
    let start ← here
    match ← next with
    | none => failAt .unterminatedSet opened
    | some t =>
      if t == .char ']' && !items.isEmpty then return items
      else
        let first ← setPoint t start
        if ← accept '-' then
          let start' ← here
          match ← next with
          | none => failAt .unterminatedSet opened
          | some t' =>
            if t' == .char ']' then return items ++ [first, .char '-']
            else
              let second ← setPoint t' start'
              let problem := PatternProblem.badRange t.text t'.text
              let place := (← here) - (t.length + 1 + t'.length)
              match first, second with
              | .char a, .char b =>
                if b.toNat < a.toNat then failAt problem place
                else setItems opened fuel (items ++ [.range a b])
              | _, _ => failAt problem place
        else setItems opened fuel (items ++ [first])

/-- The bounds of a repetition, if the token starts one. A brace that does not is a character. -/
def repeatBounds? (t : Token) : Read (Option (Nat × Option Nat)) := do
  let number (cs : List Char) : Nat := cs.foldl (fun n d => n * 10 + (d.toNat - '0'.toNat)) 0
  if t == .char '?' then return some (0, some 1)
  else if t == .char '*' then return some (0, none)
  else if t == .char '+' then return some (1, none)
  else
    let start ← here
    let r ← get
    if (← peek) == some (.char (Char.ofNat 125)) then return none
    else
      let low ← takeWhile Char.isDigit r.rest.length
      let comma ← accept ','
      let high ← if comma then takeWhile Char.isDigit r.rest.length else pure low
      if !(← accept (Char.ofNat 125)) then
        set r
        return none
      else
        let least := number low
        let most := if high.isEmpty then none else some (number high)
        if least ≥ 4294967295 || (most.map fun n => decide (n ≥ 4294967295)).getD false then
          fun s => .error ⟨.countTooLarge, none, s.written⟩
        else if (most.map fun n => decide (n < least)).getD false then failAt .leastAboveMost start
        else return some (least, most)

/-- The letters of an inline flag group, up to the character that ends them. -/
def flagLetters (expected : String) (ends : List Char) (off : Bool) :
    Nat → Char → Flags → Read (Flags × Char)
  | 0, c, flags => return (flags, c)
  | fuel + 1, c, flags => do
    if c == 'L' then failAt (if off then .flagKept else .flagNotForText) (← here)
    else
      let one := (Flags.ofLetter? c).getD Flags.off
      if off && (one.ascii || one.unicode) then failAt .flagKept (← here)
      else
        let joined := flags.join one
        if joined.ascii && joined.unicode then failAt .flagsClash (← here)
        else
          let place ← here
          match ← next with
          | some (.char d) =>
            if ends.contains d then return (joined, d)
            else if (Flags.ofLetter? d).isSome then flagLetters expected ends off fuel d joined
            else if isAlphanumeric d && !isDecimal d then failAt .unknownFlag place
            else failAt (.missingAfterFlags expected) place
          | some _ => failAt (.missingAfterFlags expected) place
          | none => failAt (.missingAfterFlags expected) (← here)

/-- Inline flags from their first character on: those switched on, and those switched off if a
group follows; without one they are flags of the whole pattern. -/
def inlineFlags (first : Char) : Read (Flags × Option Flags) := do
  let fuel := (← get).rest.length + 1
  let (on, mark) ← if first == '-' then pure (Flags.off, '-')
    else flagLetters "-, : or )" [')', '-', ':'] false fuel first Flags.off
  if mark == ')' then return (on, none)
  else if mark == ':' then return (on, some Flags.off)
  else
    let place ← here
    match ← next with
    | some (.char d) =>
      if (Flags.ofLetter? d).isSome then
        let (off, _) ← flagLetters ":" [':'] true fuel d Flags.off
        if on.meet off then failAt .flagTwice ((← here) - 1) else return (on, some off)
      else if isAlphanumeric d && !isDecimal d then failAt .unknownFlag place
      else failAt (.missingAfterFlags "flag") place
    | some _ => failAt (.missingAfterFlags "flag") place
    | none => failAt (.missingAfterFlags "flag") (← here)

/-- Opens a group and gives its number. -/
def openGroup (name : Option String) : Read Nat := do
  let r ← get
  let number := r.groups.length + 1
  match name with
  | some n =>
    let numbered := r.groups.reverse.zipIdx 1
    match numbered.find? (fun g => g.1 == some n) with
    | some (_, earlier) => failAt (.nameTaken n number earlier) (r.place - (n.length + 1))
    | none => pure ()
  | none => pure ()
  set { r with groups := name :: r.groups }
  return number

/-- Skips a comment up to its closing parenthesis; `opened` is the place of the opening one. -/
def skipComment (opened : Nat) : Nat → Read Unit
  | 0 => return ()
  | fuel + 1 => do
    match ← peek with
    | none => failAt .unterminatedComment opened
    | some _ =>
      if (← next) == some (.char ')') then return () else skipComment opened fuel

/-- Skips the rest of a line. -/
def skipLine : Nat → Read Unit
  | 0 => return ()
  | fuel + 1 => do
    match ← next with
    | none => return ()
    | some t => if t == .char '\n' then return () else skipLine fuel

/-- What an opening parenthesis starts. -/
inductive Opening where
  | group (number : Option Nat) (flags : Flags) (atomic : Bool)
  | look (behind negated : Bool)
  | flags
  | comment
  | reference (name : String)

/-- Reads what follows an opening parenthesis, whose place is `opened`. -/
def opening (flags : Flags) (first : Bool) (opened : Nat) : Read Opening := do
  if !(← accept '?') then return .group (some (← openGroup none)) flags false
  else
    let place ← here
    match ← next with
    | none => failAt .unexpectedEnd place
    | some (.char c) =>
      if c == 'P' then
        let fuel := (← get).rest.length + 1
        if ← accept '<' then
          let name ← takeName '>' fuel []
          if isIdentifier name.toList then
            return .group (some (← openGroup (some name))) flags false
          else failAt (.badName name) ((← here) - (name.length + 1))
        else if ← accept '=' then
          let name ← takeName ')' fuel []
          if isIdentifier name.toList then return .reference name
          else failAt (.badName name) ((← here) - (name.length + 1))
        else
          match ← next with
          | none => failAt .unexpectedEnd (← here)
          | some t =>
            failAt (.unknownExtension ("P" ++ t.text)) ((← here) - (t.length + 2))
      else if c == ':' then return .group none flags false
      else if c == '#' then
        skipComment opened ((← get).rest.length + 1)
        return .comment
      else if c == '=' || c == '!' then return .look false (c == '!')
      else if c == '<' then
        match ← next with
        | none => failAt .unexpectedEnd (← here)
        | some t =>
          if t == .char '=' || t == .char '!' then return .look true (t == .char '!')
          else failAt (.unknownExtension ("<" ++ t.text)) ((← here) - (t.length + 2))
      else if c == '>' then return .group none flags true
      else if (Flags.ofLetter? c).isSome || c == '-' then
        match ← inlineFlags c with
        | (on, none) =>
          if !first then failAt .flagsNotFirst opened
          else
            modify fun r => { r with flags := r.flags.join on }
            return .flags
        | (on, some off) => return .group none ((flags.join on).without off) false
      else failAt (.unknownExtension (String.singleton c)) ((← here) - 2)
    | some t => failAt (.unknownExtension t.text) ((← here) - (t.length + 1))

/-- The parts of a sequence, latest first, as one pattern. -/
def join : List Part → Pattern
  | [] => .empty
  | [p] => p.pattern
  | p :: earlier => .seq (join earlier) p.pattern

/-- One repetition applied to the latest part of a sequence. -/
def repeatLast (bounds : Nat × Option Nat) (start : Nat) (parts : List Part) :
    Read (List Part) := do
  match parts with
  | [] => failAt .nothingToRepeat start
  | p :: earlier =>
    if p.last == .edge then failAt .nothingToRepeat start
    else if p.last == .repeated then failAt .multipleRepeat start
    else
      let greed ← if ← accept '?' then pure Greed.lazy
        else if ← accept '+' then pure Greed.possessive else pure Greed.greedy
      return ⟨.times bounds.1 bounds.2 greed p.pattern, .repeated⟩ :: earlier

mutual

/-- The alternatives up to a closing parenthesis or the end. -/
def alternatives (fuel : Nat) (flags : Flags) (outermost : Bool) : Read Pattern :=
  match fuel with
  | 0 => pure .never
  | fuel + 1 => do
    let one ← sequence fuel flags outermost outermost []
    if ← accept '|' then
      return .either one (← alternativesRest fuel flags outermost)
    else return one

/-- The alternatives after the first. -/
def alternativesRest (fuel : Nat) (flags : Flags) (outermost : Bool) : Read Pattern :=
  match fuel with
  | 0 => pure .never
  | fuel + 1 => do
    let one ← sequence fuel flags outermost false []
    if ← accept '|' then
      return .either one (← alternativesRest fuel flags outermost)
    else return one

/-- A sequence of parts; `parts` are those read so far, latest first. Flags of the whole pattern
take effect at its start, where `outermost` holds and no part has been read. -/
def sequence (fuel : Nat) (flags : Flags) (outermost first : Bool) (parts : List Part) :
    Read Pattern :=
  match fuel with
  | 0 => pure .never
  | fuel + 1 => do
    let start ← here
    let global := (← get).flags
    let flags := if outermost then flags.join global else flags
    match ← peek with
    | none => return join parts
    | some (.char '|') => return join parts
    | some (.char ')') => return join parts
    | some t =>
      let _ ← next
      match t with
      | .escape c => sequence fuel flags outermost first ((← escapePart c start flags) :: parts)
      | .danglingEscape => return join parts
      | .char c =>
        if flags.verbose && (c == ' ' || (9 ≤ c.toNat && c.toNat ≤ 13)) then
          sequence fuel flags outermost first parts
        else if flags.verbose && c == '#' then
          skipLine fuel
          sequence fuel flags outermost first parts
        else if c == '[' then
          let negated ← accept '^'
          let items ← setItems start (fuel + 1) []
          sequence fuel flags outermost first
            (⟨.oneOf negated items flags.ignoreCase, .plain⟩ :: parts)
        else if c == '.' then
          sequence fuel flags outermost first (⟨.any flags.newline, .plain⟩ :: parts)
        else if c == '^' then
          sequence fuel flags outermost first (⟨.lineStart flags.everyLine, .edge⟩ :: parts)
        else if c == '$' then
          sequence fuel flags outermost first (⟨.lineEnd flags.everyLine, .edge⟩ :: parts)
        else if c == '?' || c == '*' || c == '+' || c.toNat == 123 then
          match ← repeatBounds? t with
          | none =>
            sequence fuel flags outermost first (⟨.char c flags.ignoreCase, .plain⟩ :: parts)
          | some bounds => sequence fuel flags outermost first (← repeatLast bounds start parts)
        else if c == '(' then
          match ← opening flags (first && parts.isEmpty) start with
          | .flags => sequence fuel flags outermost first parts
          | .comment => sequence fuel flags outermost first parts
          | .reference name =>
            let r ← get
            let numbered := r.groups.reverse.zipIdx 1
            match numbered.find? (fun g => g.1 == some name) with
            | none => failAt (.unknownName name) (r.place - (name.length + 1))
            | some (_, number) =>
              if !r.closed.contains number then failAt .openGroup (r.place - (name.length + 1))
              else sequence fuel flags outermost first (⟨.never, .plain⟩ :: parts)
          | .look back negated =>
            let item ← alternatives fuel flags false
            if !(← accept ')') then failAt .unterminatedGroup start
            else if back then
              match item.width? with
              | some w =>
                sequence fuel flags outermost first (⟨.behind negated w item, .plain⟩ :: parts)
              | none => fun s => .error ⟨.widthVaries, none, s.written⟩
            else sequence fuel flags outermost first (⟨.ahead negated item, .plain⟩ :: parts)
          | .group number inner whole =>
            let item ← alternatives fuel inner false
            if !(← accept ')') then failAt .unterminatedGroup start
            else
              match number with
              | some n => modify fun r => { r with closed := n :: r.closed }
              | none => pure ()
              sequence fuel flags outermost first
                (⟨if whole then .atomic item else item, .plain⟩ :: parts)
        else sequence fuel flags outermost first (⟨.char c flags.ignoreCase, .plain⟩ :: parts)

end

/-- Reads a written pattern. -/
def parse (written : String) : Except PatternFault Pattern :=
  let ts := tokens written.toList
  if ts.head? == some .danglingEscape then
    .error ⟨.endsInEscape, some 0, written⟩
  else
    let reader : Reader := ⟨written, ts, 0, Flags.off, [], []⟩
    match (alternatives (2 * ts.length + 2) Flags.off true).run reader with
    | .error f => .error f
    | .ok (p, r) =>
      if r.rest.isEmpty then .ok p else .error ⟨.unbalanced, some r.place, written⟩

end Pattern

end TypeProjection.Text
