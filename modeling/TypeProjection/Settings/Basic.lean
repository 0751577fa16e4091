import TypeProjection.Files.Tree
import TypeProjection.Json.Reader
import TypeProjection.Settings.EnvFile
import TypeProjection.Text.Case

/-!
Settings. Each has a variable, and takes its value from what the caller gives, from the
environment, or from the file of variables in the working directory, in this order.
-/

namespace TypeProjection

/-- The settings of a run. -/
structure Settings where
  skip : List String
  interfacesOnly : Bool
  dates : Bool
  template : Option Path
  typeMap : Option Path

/-- Where a variable is read from. -/
inductive SettingsSource where
  | environment
  | file
  deriving DecidableEq, Repr

/-- The name of a source in reports. -/
def SettingsSource.label : SettingsSource → String
  | .environment => "EnvSettingsSource"
  | .file => "DotEnvSettingsSource"

/-- Why there are no settings. -/
inductive SettingsFault where
  /-- The list of skipped types is not written as a value. -/
  | unreadable (source : SettingsSource)
  /-- Values of a wrong kind: where each stands, and what it is not. -/
  | invalid (details : List (String × String))
  | file (cause : FileFault)
  deriving DecidableEq, Repr

namespace SettingsFault

/-- The name of a kind of fault. -/
def kind : SettingsFault → String
  | unreadable _ => "SettingsError"
  | invalid _ => "ValidationError"
  | file cause => cause.kind

/-- The wording of a fault. -/
def message : SettingsFault → String
  | unreadable source =>
    "error parsing value for field \"skip_type_patterns\" from source " ++
      Text.quote (Text.points source.label)
  | invalid details =>
    toString details.length ++ " validation error" ++
      (if details.length == 1 then "" else "s") ++ " for Settings"
  | file cause => cause.message

end SettingsFault

namespace Settings

/-- The variables, as a caller names them. -/
def skipVariable : String := "TSGEN_SKIP_TYPE_PATTERNS"
def interfacesVariable : String := "TSGEN_USE_INTERFACE_FOR_CLASSES"
def datesVariable : String := "TSGEN_USE_DATE_FOR_DATETIME"
def templateVariable : String := "TSGEN_TEMPLATE_PATH"
def typeMapVariable : String := "TSGEN_TYPE_MAP_PATH"

/-- The file of variables. -/
def variablesFile : Path := Path.ofText ".env"

/-- A value or what is wrong with it. -/
abbrev Checked (α : Type) := Except (List (String × String)) α

/-- Variables by their names in small letters, a later one in place of an earlier one. -/
def folded {α : Type} (entries : List (String × α)) : List (String × α) :=
  putPairs [] (entries.map fun e => (Text.lower e.1, e.2))

/-- The variables of the file, if there is one. -/
def fileVariables (t : FileTree) (environment : List (String × String)) :
    Except FileFault (List (String × String)) := do
  if !t.isFile variablesFile then return []
  else
    let entries := EnvFile.read environment (← t.readText variablesFile)
    return (folded entries).filterMap fun e => e.2.map fun v => (e.1, v)

/-- The value of a variable that holds a list. One that writes nothing counts as missing. -/
def listIn (source : SettingsSource) (entries : List (String × String)) (name : String) :
    Except SettingsFault (Option Json) :=
  match entries.lookup (Text.lower name) with
  | none => .ok none
  | some text =>
    match Json.parse text with
    | none => .error (.unreadable source)
    | some .null => .ok none
    | some j => .ok (some j)

/-- The words for a truth value. -/
def truthWords : List (String × Bool) :=
  [("0", false), ("off", false), ("f", false), ("false", false), ("n", false), ("no", false),
    ("1", true), ("on", true), ("t", true), ("true", true), ("y", true), ("yes", true)]

/-- A Latin letter in its small form. -/
def smallLetter (c : Char) : Char := if 'A' ≤ c && c ≤ 'Z' then Char.ofNat (c.toNat + 32) else c

/-- A truth value, a word for it, or the numbers one and zero. -/
def truthOf (name : String) (j : Json) : Checked Bool :=
  let unclear : Checked Bool := .error [(name, "bool_parsing")]
  let number (n : Int) : Checked Bool :=
    if n == 0 then .ok false else if n == 1 then .ok true else unclear
  match j with
  | .bool b => .ok b
  | .str s =>
    match truthWords.lookup (String.ofList (s.toList.map smallLetter)) with
    | some b => .ok b
    | none => unclear
  | .int n => number n
  | .float x =>
    match x.toInt? with
    | some n => number n
    | none => .error [(name, "bool_type")]
  | _ => .error [(name, "bool_type")]

/-- A list of texts. -/
def textsOf (name : String) (j : Json) : Checked (List String) :=
  match j with
  | .arr items =>
    let wrong := items.zipIdx.filterMap fun (item, i) =>
      match item with
      | .str _ => none
      | .broken _ => some (name ++ "." ++ toString i, "string_unicode")
      | _ => some (name ++ "." ++ toString i, "string_type")
    if wrong.isEmpty then .ok (items.filterMap Json.str?) else .error wrong
  | _ => .error [(name, "list_type")]

/-- A path, or none. -/
def pathOf (name : String) (j : Json) : Checked (Option Path) :=
  match j with
  | .null => .ok none
  | .str s => .ok (some (Path.ofText s))
  | _ => .error [(name, "path_type")]

/-- What is wrong with a value. -/
def complaints {α : Type} : Checked α → List (String × String)
  | .ok _ => []
  | .error details => details

/-- The settings from the values that the caller gives, the environment and the file of
variables. -/
def load (t : FileTree) (given : List (String × Json)) (environment : List (String × String)) :
    Except SettingsFault Settings := do
  let fromFile ← match fileVariables t environment with
    | .ok entries => pure entries
    | .error cause => throw (.file cause)
  let around := folded environment
  let listAround ← listIn .environment around skipVariable
  let listInFile ← listIn .file fromFile skipVariable
  let textIn (name : String) : Option Json :=
    ((around.lookup (Text.lower name)).orElse fun _ =>
      fromFile.lookup (Text.lower name)).map Json.str
  let find (name : String) (otherwise : Option Json) : Option Json :=
    (given.lookup name).orElse fun _ => otherwise
  let truth (name : String) : Checked Bool :=
    ((find name (textIn name)).map (truthOf name)).getD (.ok false)
  let path (name : String) : Checked (Option Path) :=
    ((find name (textIn name)).map (pathOf name)).getD (.ok none)
  let skip : Checked (List String) :=
    ((find skipVariable (listAround.orElse fun _ => listInFile)).map
      (textsOf skipVariable)).getD (.ok [])
  match skip, truth interfacesVariable, truth datesVariable, path templateVariable,
      path typeMapVariable with
  | .ok skip, .ok interfacesOnly, .ok dates, .ok template, .ok typeMap =>
    return ⟨skip, interfacesOnly, dates, template, typeMap⟩
  | a, b, c, d, e =>
    throw (.invalid (complaints a ++ complaints b ++ complaints c ++ complaints d ++ complaints e))

end Settings

end TypeProjection
