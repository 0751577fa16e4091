import TypeProjection.Literal
import TypeProjection.Text.Word

/-!
The arguments of the command. Options start with a hyphen and may be cut short as long as one
option only fits; the inputs are the one run of arguments that belongs to no option. Two hyphens
alone end the options.
-/

namespace TypeProjection.Command

/-- What the arguments ask for. A choice that is not made is left to the settings. -/
structure Arguments where
  inputs : List String
  out : Option String
  skip : List String
  interfacesOnly : Bool
  dates : Bool
  template : Option String
  typeMap : Option String
  watch : Bool
  verbose : Bool
  deriving DecidableEq, Repr

namespace Arguments

/-- Nothing asked for. -/
def none : Arguments := ⟨[], .none, [], false, false, .none, .none, false, false⟩

end Arguments

/-- An option. -/
inductive Flag where
  | help
  | out
  | skip
  | interfaces
  | date
  | template
  | typeMap
  | watch
  | verbose
  deriving DecidableEq, Repr

namespace Flag

/-- The spellings of the options, in order. -/
def spellings : List (String × Flag) :=
  [("-h", help), ("--help", help), ("--out", out), ("--skip", skip),
    ("--interfaces", interfaces), ("--date", date), ("--template", template),
    ("--type-map", typeMap), ("--watch", watch), ("--verbose", verbose)]

/-- All spellings of an option. -/
def name (f : Flag) : String :=
  String.intercalate "/" ((spellings.filter fun s => s.2 == f).map (·.1))

/-- Does the option take a value? -/
def takesValue : Flag → Bool
  | out | skip | template | typeMap => true
  | _ => false

/-- What the option asks for. -/
def apply (f : Flag) (value : String) (a : Arguments) : Arguments :=
  match f with
  | help => a
  | out => { a with out := some value }
  | skip => { a with skip := a.skip ++ [value] }
  | interfaces => { a with interfacesOnly := true }
  | date => { a with dates := true }
  | template => { a with template := some value }
  | typeMap => { a with typeMap := some value }
  | watch => { a with watch := true }
  | verbose => { a with verbose := true }

end Flag

/-- Why the arguments ask for nothing that can be done. -/
inductive Usage where
  /-- Only the manual is asked for. -/
  | help
  | ambiguous (written : String) (candidates : List String)
  | valueMissing (f : Flag)
  | valueIgnored (f : Flag) (value : String)
  | inputsMissing
  | unknown (arguments : List String)
  deriving DecidableEq, Repr

namespace Usage

/-- The exit code of the command. -/
def exitCode : Usage → Nat
  | help => 0
  | _ => 2

/-- The last line that is reported. -/
def message : Usage → String
  | help => ""
  | ambiguous written candidates =>
    "tsgen: error: ambiguous option: " ++ written ++ " could match " ++
      String.intercalate ", " candidates
  | valueMissing f => "tsgen: error: argument " ++ f.name ++ ": expected one argument"
  | valueIgnored f value =>
    "tsgen: error: argument " ++ f.name ++ ": ignored explicit argument " ++ Text.display value
  | inputsMissing => "tsgen: error: the following arguments are required: inputs"
  | unknown arguments =>
    "tsgen: error: unrecognized arguments: " ++ String.intercalate " " arguments

end Usage

/-- How a value may stand in the same argument as its option. -/
inductive Attached where
  | absent
  /-- Behind an equals sign. -/
  | assigned (value : String)
  /-- Right behind a one-letter option. -/
  | joined (value : String)
  deriving DecidableEq, Repr

/-- What one argument is. -/
inductive Word where
  | plain (s : String)
  | option (f : Flag) (value : Attached) (written : String)
  | unknownOption (written : String)
  /-- The end of the options. -/
  | separator
  deriving DecidableEq, Repr

namespace Word

/-- Does a text look like a negative number? -/
def isNegativeNumber (s : String) : Bool :=
  let cs := s.toList.drop 1
  let cs := if cs.getLast? == some '\n' then cs.dropLast else cs
  let (whole, rest) := (cs.takeWhile Text.isDecimal, cs.dropWhile Text.isDecimal)
  match rest with
  | [] => !whole.isEmpty
  | '.' :: digits => !digits.isEmpty && digits.all Text.isDecimal
  | _ => false

/-- A text cut at its first equals sign. -/
def cutAssignment (s : String) : String × Attached :=
  let name := s.toList.takeWhile (· != '=')
  match s.toList.dropWhile (· != '=') with
  | _ :: value => (String.ofList name, .assigned (String.ofList value))
  | [] => (s, .absent)

/-- The options that an argument may mean. -/
def candidates (s : String) : List (Flag × String × Attached) :=
  match s.toList with
  | '-' :: '-' :: _ =>
    let (start, value) := cutAssignment s
    (Flag.spellings.filter fun e => start.toList.isPrefixOf e.1.toList).map fun e =>
      (e.2, e.1, value)
  | '-' :: c :: rest =>
    Flag.spellings.filterMap fun e =>
      if e.1 == String.ofList ['-', c] then some (e.2, e.1, .joined (String.ofList rest))
      else if s.toList.isPrefixOf e.1.toList then some (e.2, e.1, .absent)
      else none
  | _ => []

/-- What an argument is when the options have not ended. -/
def read (s : String) : Except Usage Word :=
  if s.toList.head? != some '-' then .ok (.plain s)
  else
    match Flag.spellings.lookup s with
    | some f => .ok (.option f .absent s)
    | none =>
      if s == "-" then .ok (.plain s)
      else
        let (name, value) := cutAssignment s
        match value, Flag.spellings.lookup name with
        | .assigned _, some f => .ok (.option f value s)
        | _, _ =>
          match candidates s with
          | [(f, _, value)] => .ok (.option f value s)
          | [] =>
            if isNegativeNumber s || s.toList.contains ' ' then .ok (.plain s)
            else .ok (.unknownOption s)
          | many => .error (.ambiguous s (many.map fun c => c.2.1))

/-- What the arguments are. -/
def readAll : List String → Except Usage (List Word)
  | [] => .ok []
  | "--" :: rest => .ok (.separator :: rest.map plain)
  | s :: rest => do
    let w ← read s
    return w :: (← readAll rest)

/-- The argument as it was written. -/
def text : Word → String
  | plain s => s
  | option _ _ written => written
  | unknownOption written => written
  | separator => "--"

/-- Does the argument belong to no option? -/
def isFree : Word → Bool
  | plain _ | separator => true
  | _ => false

end Word

/-- What has been read so far: what is asked for, whether the inputs have been found, and the
arguments that nothing takes. -/
structure Reading where
  arguments : Arguments
  hasInputs : Bool
  left : List String

namespace Reading

/-- The inputs in a run of free arguments, and what it leaves. They begin with at most separators,
of which the first is dropped. -/
def takeInputs (r : Reading) (free : List Word) : Reading :=
  let written := free.map Word.text
  if r.hasInputs || !(free.any fun w => w != .separator) then { r with left := r.left ++ written }
  else
    { r with
      arguments := { r.arguments with inputs := written.erase "--" }
      hasInputs := true }

/-- What is refused among the letters behind a one-letter option: each may be another such option,
and a value would belong to none. -/
def refusedLetters : List Char → Option String
  | [] => none
  | '-' :: rest => some (String.ofList ('-' :: rest))
  | 'h' :: '=' :: rest => some (String.ofList rest)
  | 'h' :: rest => refusedLetters rest
  | _ => none

/-- An option with the words behind it: what it asks for, and the words it leaves. -/
def takeOption (r : Reading) (f : Flag) (value : Attached) (rest : List Word) :
    Except Usage (Reading × List Word) :=
  if f.takesValue then
    match value with
    | .assigned v | .joined v => .ok ({ r with arguments := f.apply v r.arguments }, rest)
    | .absent =>
      match rest with
      | .plain v :: rest => .ok ({ r with arguments := f.apply v r.arguments }, rest)
      | _ => .error (.valueMissing f)
  else
    match value with
    | .absent =>
      if f == .help then .error .help
      else .ok ({ r with arguments := f.apply "" r.arguments }, rest)
    | .assigned v => .error (.valueIgnored f v)
    | .joined v =>
      match refusedLetters v.toList with
      | some refused => .error (.valueIgnored f refused)
      | none => .error .help

/-- Reads words with fuel for each. -/
def readWords : Nat → Reading → List Word → Except Usage Reading
  | 0, r, _ | _, r, [] => .ok r
  | fuel + 1, r, .option f value _ :: rest => do
    let (r, rest) ← r.takeOption f value rest
    readWords fuel r rest
  | fuel + 1, r, .unknownOption s :: rest => readWords fuel { r with left := r.left ++ [s] } rest
  | fuel + 1, r, words =>
    readWords fuel (r.takeInputs (words.takeWhile Word.isFree)) (words.dropWhile Word.isFree)

end Reading

/-- What the arguments ask for, or why nothing can be done. -/
def Arguments.parse (written : List String) : Except Usage Arguments := do
  let words ← Word.readAll written
  let r ← Reading.readWords (words.length + 1) ⟨.none, false, []⟩ words
  if !r.hasInputs then throw .inputsMissing
  else if !r.left.isEmpty then throw (.unknown r.left)
  else return r.arguments

end TypeProjection.Command
