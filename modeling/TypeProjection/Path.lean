import TypeProjection.Text.Blank
import TypeProjection.Text.Word

/-!
Paths as written: a root and the names that follow it. Empty names and single points are dropped,
and two leading slashes are told apart from one; no name is resolved here.
-/

namespace TypeProjection

/-- A path. `root` is empty for a relative path. -/
structure Path where
  root : String
  parts : List String
  deriving DecidableEq, Repr, Inhabited

namespace Path

/-- The root that leading slashes write: two of them are kept, any other number is one. -/
def rootOf (s : String) : String :=
  match s.toList.takeWhile (· == '/') with
  | [] => ""
  | [_, _] => "//"
  | _ => "/"

/-- The names of a written path. -/
def namesOf (s : String) : List String :=
  ((Text.pieces '/' s.toList).map String.ofList).filter fun p => p != "" && p != "."

/-- The path that a text writes. -/
def ofText (s : String) : Path := ⟨rootOf s, namesOf s⟩

/-- A path as it is written. -/
def text (p : Path) : String :=
  if p.root == "" && p.parts.isEmpty then "." else p.root ++ String.intercalate "/" p.parts

/-- Does the path start at a root? -/
def isAbsolute (p : Path) : Bool := p.root != ""

/-- The last name, or nothing. -/
def name (p : Path) : String := (p.parts.getLast?).getD ""

/-- The path without its last name. -/
def parent (p : Path) : Path := { p with parts := p.parts.dropLast }

/-- A path followed from another. -/
def join (base p : Path) : Path :=
  if p.isAbsolute then p else { base with parts := base.parts ++ p.parts }

/-- A path with one more name. -/
def child (p : Path) (name : String) : Path := { p with parts := p.parts ++ [name] }

/-- A name cut before its last point, unless the point comes first or last. -/
def cutName (name : String) : String × String :=
  let cs := name.toList
  let suffix := cs.reverse.takeWhile (· != '.')
  let stem := cs.take (cs.length - suffix.length - 1)
  if suffix.length == cs.length || suffix.isEmpty || stem.isEmpty then (name, "")
  else (String.ofList stem, "." ++ String.ofList suffix.reverse)

/-- The ending of the last name, with its point. -/
def suffix (p : Path) : String := (cutName p.name).2

/-- The last name without its ending. -/
def stem (p : Path) : String := (cutName p.name).1

/-- The path without the ending of its last name. -/
def withoutSuffix (p : Path) : Path :=
  match p.parts.getLast? with
  | none => p
  | some n => { p with parts := p.parts.dropLast ++ [(cutName n).1] }

/-- Does one path come before another, name by name? -/
def before (p q : Path) : Bool :=
  let key (p : Path) : List String := (if p.root == "" then [] else [p.root]) ++ p.parts
  decide (key p < key q)

end Path

/-- The name of the module that a file makes: its path without ending, with every character that no
name can have replaced. A path without a name makes none. -/
def moduleNameOf? (p : Path) : Option String :=
  if p.name == "" then none
  else
    let cs := p.withoutSuffix.text.toList.dropWhile (· == '/')
    let trimmed := (cs.reverse.dropWhile (· == '/')).reverse
    some ("_tsgen_input__" ++
      String.ofList (trimmed.map fun c => if Text.isWord c then c else '_'))

end TypeProjection
