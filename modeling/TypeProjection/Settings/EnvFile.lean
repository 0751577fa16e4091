import TypeProjection.Pairs
import TypeProjection.Text.Blank

/-!
Files of environment variables. A statement names a variable and, behind an equals sign, its value;
values may be quoted, and may name other variables. A statement that goes wrong is skipped up to
the end of the line where it does.
-/

namespace TypeProjection.EnvFile

open Text (isBlank)

/-- Is the character a blank within a line? -/
def isInnerBlank (c : Char) : Bool := isBlank c && c != '\r' && c != '\n'

/-- Does the character end a line of statements? -/
def isBreak (c : Char) : Bool := c == '\r' || c == '\n'

/-- The text behind the blanks at its start that stay in the line. -/
def skipInner (cs : List Char) : List Char := cs.dropWhile isInnerBlank

/-- The text behind the word that may stand before a variable. -/
def skipExport (cs : List Char) : List Char :=
  let word := "export".toList
  let rest := cs.drop word.length
  if Text.startsWith cs word && (rest.head?.map isInnerBlank).getD false then skipInner rest
  else cs

/-- The name of a variable, or a comment in its place, and what follows. -/
def readKey (cs : List Char) : Option (Option String × List Char) :=
  match cs with
  | '#' :: _ => some (none, cs)
  | '\'' :: rest =>
    let key := rest.takeWhile (· != '\'')
    match key, rest.dropWhile (· != '\'') with
    | _ :: _, _ :: after => some (some (String.ofList key), after)
    | _, _ => none
  | _ =>
    let isKey (c : Char) : Bool := !(c == '=' || c == '#' || isBlank c)
    match cs.takeWhile isKey with
    | [] => none
    | key => some (some (String.ofList key), cs.dropWhile isKey)

/-- The ways to end a quoted text, nearest first: how it is written up to a mark, whether a
backslash stands before the mark, and what follows. -/
def marksIn (mark : Char) (done : List Char) : List Char → List (List Char × Bool × List Char)
  | [] => []
  | c :: rest =>
    let later := marksIn mark (c :: done) rest
    if c == mark then (done.reverse, done.head? == some '\\', rest) :: later else later

/-- A quoted text behind its first mark. It ends at the first mark without a backslash, or at the
last one if all have one. -/
def readQuoted (mark : Char) (cs : List Char) : Option (List Char × List Char) :=
  let ends := marksIn mark [] cs
  match ends.find? fun e => !e.2.1 with
  | some e => some (e.1, e.2.2)
  | none => ends.getLast?.map fun e => (e.1, e.2.2)

/-- What a letter behind a backslash means in double quotes. -/
def escapes : List (Char × Char) :=
  [('\\', '\\'), ('\'', '\''), ('"', '"'), ('a', '\x07'), ('b', '\x08'), ('f', '\x0c'),
    ('n', '\n'), ('r', '\r'), ('t', '\t'), ('v', '\x0b')]

/-- A quoted text with its escapes read. -/
def unescape (known : List (Char × Char)) : List Char → List Char
  | '\\' :: c :: rest =>
    match known.lookup c with
    | some d => d :: unescape known rest
    | none => '\\' :: unescape known (c :: rest)
  | c :: rest => c :: unescape known rest
  | [] => []

/-- A plain value up to a comment, which starts behind a blank. -/
def beforeComment : List Char → List Char
  | [] => []
  | c :: rest =>
    if isBlank c && (rest.dropWhile isBlank).head? == some '#' then []
    else c :: beforeComment rest

/-- The value behind an equals sign, and what follows. -/
def readValue (cs : List Char) : Option (String × List Char) :=
  match cs with
  | '\'' :: rest =>
    (readQuoted '\'' rest).map fun (v, after) =>
      (String.ofList (unescape (escapes.take 2) v), after)
  | '"' :: rest =>
    (readQuoted '"' rest).map fun (v, after) => (String.ofList (unescape escapes v), after)
  | _ =>
    let line := cs.takeWhile fun c => !isBreak c
    some (String.ofList (Text.stripRight (beforeComment line)), cs.dropWhile fun c => !isBreak c)

/-- The text behind a comment and the end of a line. -/
def readLineEnd (cs : List Char) : Option (List Char) :=
  let afterComment := match skipInner cs with
    | '#' :: rest => rest.dropWhile fun c => !isBreak c
    | _ => cs
  match skipInner afterComment with
  | [] => some []
  | '\r' :: '\n' :: rest | '\r' :: rest | '\n' :: rest => some rest
  | _ => none

/-- The text behind the line that a statement fails in. -/
def skipLine (cs : List Char) : List Char :=
  match cs.dropWhile fun c => !isBreak c with
  | _ :: rest => rest
  | [] => []

/-- A statement: a variable and its value, either of which may be missing. -/
structure Statement where
  key : Option String
  value : Option String

/-- Reads a statement and gives what follows; a failure gives where it happened. -/
def readStatement (cs : List Char) : Except (List Char) (Statement × List Char) :=
  let cs := skipExport cs
  match readKey cs with
  | none => .error cs
  | some (key, rest) =>
    let closed (value : Option String) (rest : List Char) :
        Except (List Char) (Statement × List Char) :=
      match readLineEnd rest with
      | some after => .ok (⟨key, value⟩, after)
      | none => .error rest
    match skipInner rest with
    | '=' :: more =>
      match readValue (skipInner more) with
      | some (value, after) => closed (some value) after
      | none => .error (skipInner more)
    | more => closed none more

/-- The statements of a text, with fuel for each. -/
def readStatements : Nat → List Char → List Statement
  | 0, _ => []
  | fuel + 1, cs =>
    match cs.dropWhile isBlank with
    | [] => []
    | start =>
      match readStatement start with
      | .ok (s, rest) => s :: readStatements fuel rest
      | .error place => readStatements fuel (skipLine place)

/-- A variable in a value: its name, what to take without one, and what follows. -/
def readVariable (cs : List Char) : Option (String × String × List Char) :=
  let isName (c : Char) : Bool := c != '\x7d' && c != ':'
  let name := String.ofList (cs.takeWhile isName)
  match cs.dropWhile isName with
  | '\x7d' :: rest => some (name, "", rest)
  | ':' :: '-' :: rest =>
    match rest.dropWhile (· != '\x7d') with
    | _ :: after => some (name, String.ofList (rest.takeWhile (· != '\x7d')), after)
    | [] => none
  | _ => none

/-- A value with its variables replaced, with fuel for each character. -/
def fillIn (meaning : String → String → String) : Nat → List Char → List Char
  | 0, cs => cs
  | _, [] => []
  | fuel + 1, '$' :: '\x7b' :: rest =>
    match readVariable rest with
    | some (name, fallback, after) =>
      (meaning name fallback).toList ++ fillIn meaning fuel after
    | none => '$' :: fillIn meaning fuel ('\x7b' :: rest)
  | fuel + 1, c :: rest => c :: fillIn meaning fuel rest

/-- What a variable means: what the file said before, or the environment, or the fallback. A
variable without a value means nothing. -/
def meaningOf (environment : List (String × String)) (done : List (String × Option String))
    (name fallback : String) : String :=
  match done.lookup name with
  | some value => value.getD ""
  | none => (environment.lookup name).getD fallback

/-- The variables of a text with their values. -/
def read (environment : List (String × String)) (text : String) :
    List (String × Option String) :=
  (readStatements (text.length + 1) text.toList).foldl (fun done s =>
    match s.key with
    | none => done
    | some key =>
      let value := s.value.map fun v =>
        String.ofList (fillIn (meaningOf environment done) (v.length + 1) v.toList)
      putPair key value done) []

end TypeProjection.EnvFile
