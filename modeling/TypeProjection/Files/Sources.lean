import TypeProjection.Distinct
import TypeProjection.Files.Tree
import TypeProjection.Text.Wildcard

/-!
The source files that an input means: a folder means all of them below it, a source file itself,
and any other text is a pattern of paths. The files come in path order for each input, every file
once, and without those that only mark a folder as a package.
-/

namespace TypeProjection.FileTree

open Text (Wildcard hasWildcard)

/-- The ending of source files. -/
def sourceSuffix : String := ".py"

/-- A path text cut before its last name. Slashes at the end of the first part are dropped unless
there is nothing else. -/
def cutPath (s : String) : String × String :=
  let last := (s.toList.reverse.takeWhile (· != '/')).reverse
  let folder := s.toList.take (s.length - last.length)
  let trimmed := (folder.reverse.dropWhile (· == '/')).reverse
  (String.ofList (if trimmed.isEmpty then folder else trimmed), String.ofList last)

/-- A name put behind a folder. -/
def joinPath (folder name : String) : String :=
  if name == "" && folder != "" then
    (if folder.toList.getLast? == some '/' then folder else folder ++ "/")
  else if folder == "" || folder.toList.getLast? == some '/' then folder ++ name
  else folder ++ "/" ++ name

/-- Is the name hidden from wildcards that do not ask for it? -/
def isHiddenName (s : String) : Bool := s.toList.head? == some '.'

/-- The place of a folder named by a text; no text is the working directory. -/
def folderPlace? (t : FileTree) (folder : String) : Option Place :=
  (t.place? (Path.ofText folder)).filter t.isFolderAt

/-- Is the node one to be listed? -/
def isListed (foldersOnly : Bool) (n : FileNode) : Bool :=
  match n with
  | .folder => true
  | .file _ _ => !foldersOnly

/-- The names in a folder that a wildcard stands for. -/
def namesLike (t : FileTree) (foldersOnly : Bool) (folder pattern : String) : List String :=
  match t.folderPlace? folder with
  | none => []
  | some p =>
    (((t.names p).filter fun e => isListed foldersOnly e.2).map (·.1)).filter fun n =>
      (isHiddenName pattern || !isHiddenName n) && (Wildcard.ofText pattern).matchesText n

/-- The paths below a folder without hidden names, and the folder itself. -/
def pathsBelow (t : FileTree) (foldersOnly : Bool) (folder : String) : List String :=
  match t.folderPlace? folder with
  | none => []
  | some p =>
    "" :: (((t.below p).filter fun e => isListed foldersOnly e.2 && !e.1.any isHiddenName).map
      fun e => String.intercalate "/" e.1)

/-- A plain name in a folder, if it is there; no name asks for a folder. -/
def nameIn (t : FileTree) (folder name : String) : List String :=
  if name == "" then (if (t.folderPlace? folder).isSome then [""] else [])
  else if t.has (Path.ofText (joinPath folder name)) then [name] else []

/-- The paths that a pattern stands for, with fuel for each of its names. -/
def expandFrom (t : FileTree) : Nat → Bool → String → List String
  | 0, _, _ => []
  | fuel + 1, foldersOnly, pattern =>
    let (folder, name) := cutPath pattern
    if !hasWildcard pattern then (t.nameIn folder name).map fun _ => pattern
    else
      let inFolder (d : String) : List String :=
        if name == "**" then t.pathsBelow foldersOnly d
        else if hasWildcard name then t.namesLike foldersOnly d name
        else t.nameIn d name
      if folder == "" then inFolder ""
      else
        let folders :=
          if folder != pattern && hasWildcard folder then t.expandFrom fuel true folder
          else [folder]
        folders.flatMap fun d => (inFolder d).map (joinPath d)

/-- The paths that a pattern stands for. -/
def expand (t : FileTree) (pattern : String) : List Path :=
  (t.expandFrom (pattern.length + 1) false pattern).map Path.ofText

/-- Paths in order. -/
def sorted (ps : List Path) : List Path := ps.mergeSort fun a b => !b.before a

/-- The source files below a folder, in order. -/
def sourcesBelow (t : FileTree) (p : Path) : List Path :=
  match t.place? p with
  | none => []
  | some place =>
    sorted (((t.below place).filter fun e =>
      match e.1.getLast? with
      | some n => Text.startsWith n.toList.reverse sourceSuffix.toList.reverse
      | none => false).map fun e => p.join ⟨"", e.1⟩)

/-- The source files that one input means, in order. -/
def sourcesOf (t : FileTree) (input : String) : List Path :=
  let p := Path.ofText input
  if t.isFolder p then t.sourcesBelow p
  else if t.isFile p && p.suffix == sourceSuffix then [p]
  else sorted ((t.expand input).filter fun q => q.suffix == sourceSuffix)

/-- The name of the file that marks a folder as a package. -/
def packageFile : String := "__init__.py"

/-- The source files that inputs mean, every file once. -/
def collect (t : FileTree) (inputs : List String) : List Place :=
  distinct (((inputs.flatMap t.sourcesOf).map t.resolve).filter fun p =>
    p.getLast? != some packageFile)

/-- Does an input mean files, not a module? -/
def looksLikePath (t : FileTree) (input : String) : Bool :=
  Text.startsWith input.toList.reverse sourceSuffix.toList.reverse ||
    input.toList.contains '/' || hasWildcard input || t.has (Path.ofText input)

/-- Can the system not look an input up, because a name or the path is too long? Each input is looked
up once at least: to see if it means files, or which. -/
def isOverlong (t : FileTree) (input : String) : Bool := t.meetsOverlong (Path.ofText input)

end TypeProjection.FileTree
