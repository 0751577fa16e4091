import TypeProjection.Definition.Run
import TypeProjection.Files.Tree

/-!
Importing modules by name. A module is looked for in the folders of the search path, or in those of
the package that its name begins with; a file is preferred to a folder that is no package. A module
is there as soon as its definitions begin to run, so modules may import each other, and one that
fails is taken away again.
-/

namespace TypeProjection

open Annotation
open Definition (Run Setting failing lifted bind runDefinitions)

/-- Where modules are looked for: a tree and the folders to search, first ones first. -/
structure SearchPath where
  tree : FileTree
  folders : List Place

namespace SearchPath

/-- What a search ends with. -/
inductive Found where
  /-- A source file, and the folders of its submodules if it is a package. -/
  | source (file : Place) (folders : Option (List Place))
  /-- A file without source. -/
  | compiled (file : Place)
  /-- Folders without a file of their own. -/
  | portions (folders : List Place)

/-- The file of a place, written from the root. -/
def absolute (p : Place) : String := (Path.mk "/" p).text

/-- What a folder holds under the last name of a module. -/
def findIn (t : FileTree) (name : String) (folder : Place) : Option Found :=
  let base := folder ++ [name]
  let file (ending : String) : Place := folder ++ [name ++ ending]
  let isNamed := name != ""
  if isNamed && t.isFileAt (base ++ ["__init__.py"]) then
    some (.source (base ++ ["__init__.py"]) (some [base]))
  else if isNamed && t.isFileAt (base ++ ["__init__.pyc"]) then
    some (.compiled (base ++ ["__init__.pyc"]))
  else if t.isFileAt (file ".py") then some (.source (file ".py") Option.none)
  else if t.isFileAt (file ".pyc") then some (.compiled (file ".pyc"))
  else if isNamed && t.isFolderAt base then some (.portions [base])
  else Option.none

/-- What folders hold under the last name of a module: the first file, or all folders. -/
def findAmong (t : FileTree) (name : String) : List Place → Option Found
  | [] => Option.none
  | folder :: rest =>
    match findIn t name folder with
    | some (.portions here) =>
      match findAmong t name rest with
      | some (.portions more) => some (.portions (here ++ more))
      | some found => some found
      | Option.none => some (.portions here)
    | some found => some found
    | Option.none => findAmong t name rest

/-- A name cut at its last point. -/
def cutLast (name : String) : Option String × String :=
  let last := (name.toList.reverse.takeWhile (· != '.')).reverse
  if last.length == name.length then (Option.none, name)
  else (some (String.ofList (name.toList.take (name.length - last.length - 1))),
    String.ofList last)

/-- What is said of a module that is not found. -/
def missing (module : String) : Fault := .unknownModule ("No module named " ++ Text.display module)

/-- The modules of the library that have submodules. -/
def libraryPackages : List String := ["collections"]

/-- The folders in which a module of a package is looked for. -/
def foldersOf (s : SearchPath) (w : World) (module : String) (package : Option String) :
    Except Fault (List Place) :=
  match package with
  | Option.none => .ok s.folders
  | some p =>
    match w.loaded? p with
    | some m =>
      match m.folders with
      | some folders => .ok folders
      | Option.none => .error (noPackage p)
    | Option.none =>
      if libraryPackages.contains p then .error (missing module) else .error (noPackage p)
where
  /-- A module has no submodules. -/
  noPackage (p : String) : Fault :=
    .unknownModule ("No module named " ++ Text.display module ++ "; " ++ Text.display p ++
      " is not a package")

/-- The name that an import in a module means: leading points stand for the packages around it. -/
def absoluteName (w : World) (importer written : String) : Except Fault String :=
  let points := written.toList.takeWhile (· == '.')
  let rest := String.ofList (written.toList.dropWhile (· == '.'))
  if points.isEmpty then .ok written
  else
    let isPackage := ((w.loaded? importer).bind LoadedModule.folders).isSome
    let package := if isPackage then some importer else (cutLast importer).1
    match package with
    | Option.none =>
      .error (.notImportable "attempted relative import with no known parent package")
    | some p =>
      let names := (Text.pieces '.' p.toList).map String.ofList
      if names.length < points.length then
        .error (.notImportable "attempted relative import beyond top-level package")
      else
        let base := String.intercalate "." (names.take (names.length + 1 - points.length))
        .ok (if rest == "" then base else base ++ "." ++ rest)

/-- What is said of a name that a module does not have. -/
def missingName (w : World) (module name : String) : Fault :=
  let start := "cannot import name " ++ Text.display name ++ " from "
  match w.loaded? module with
  | some m =>
    match m.file with
    | some file =>
      let state := if m.isReady then "" else "partially initialized module "
      let guess := if m.isReady then "" else " (most likely due to a circular import)"
      .notImportable (start ++ state ++ Text.display module ++ guess ++ " (" ++ file ++ ")")
    | Option.none =>
      .notImportable (start ++ Text.display module ++ " (unknown location)")
  | Option.none => .notImportable (start ++ Text.display module)

/-- The module of a name is known: it runs or has run, or the library has it. -/
def isKnown (w : World) (module : String) : Bool :=
  (w.current.lookup module).isSome || libraryModules.contains module

/-- The value of a name that is imported from a module. -/
def importedName (module name : String) : Run Value := do
  let w ← get
  match w.moduleName? module name with
  | some v => return v
  | Option.none =>
    let full := module ++ "." ++ name
    if isKnown w full then return .module full else failing (missingName w module name)

/-- Runs what a source file holds. A file of bytes defines nothing. -/
def execute (importFrom : String → List String → Run (List Value)) (module : String)
    (content : FileContent) : Run Unit :=
  match content with
  | .bytes _ => pure ()
  | .definitions s => runDefinitions ⟨module, s.postponed, importFrom⟩ s.definitions

/-- What the file at a place holds. -/
def contentAt (t : FileTree) (p : Place) : FileContent :=
  match t.node? p with
  | some (.file content _) => content
  | _ => .bytes []

/-- What is said of a file without source. -/
def unreadable (t : FileTree) (module : String) (file : Place) : Fault :=
  let bytes := match contentAt t file with
    | .bytes bs => bs
    | .definitions _ => []
  .notImportable ("bad magic number in " ++ Text.display module ++ ": " ++
    Text.displayBytes ((bytes.take 4).map UInt8.toNat))

/-- Runs a new module. If it fails, it is not found any more. -/
def launch (m : LoadedModule) (body : Run Unit) : Run Unit := do
  modify fun w => w.addModule m
  try body
  catch f =>
    modify fun w => w.forgetModule m.name
    failing f
  modify fun w => w.changeModule m.name fun m => { m with isReady := true }

/-- Runs what has been found as a module. -/
def load (s : SearchPath) (importFrom : String → List String → Run (List Value))
    (module : String) : Found → Run Unit
  | .source file folders =>
    launch ⟨module, [], some (absolute file), folders, Option.none, false⟩
      (execute importFrom module (contentAt s.tree file))
  | .compiled file => failing (unreadable s.tree module file)
  | .portions folders =>
    modify fun w => w.addModule ⟨module, [], Option.none, some folders, Option.none, true⟩

/-- Puts a module under its last name into the package that it belongs to. -/
def attach (module : String) : Run Unit :=
  match cutLast module with
  | (some package, name) =>
    modify fun w => w.changeModule package fun m =>
      { m with names := putPair name (.module module) m.names }
  | (Option.none, _) => pure ()

/-- Imports a submodule if a package has no such name; that there is none is no failure yet. -/
def importIfMissing (importNamed : String → Run Unit) (package name : String) : Run Unit := do
  let w ← get
  let isPackage := ((w.loaded? package).bind LoadedModule.folders).isSome
  if isPackage && (w.moduleName? package name).isNone then
    let full := package ++ "." ++ name
    try importNamed full
    catch f => if f == missing full then pure () else failing f
  else pure ()

/-- The values of names that a module imports from another, which is imported first. -/
def importWith (importNamed : String → Run Unit) (importer written : String)
    (names : List String) : Run (List Value) := do
  let source ← lifted (absoluteName (← get) importer written)
  importNamed source
  names.forM (importIfMissing importNamed source)
  names.mapM (importedName source)

/-- Imports a module, and the packages around it first. -/
def importNamed (s : SearchPath) : Nat → String → Run Unit
  | 0, _ => failing .endless
  | fuel + 1, module => do
    if module == "" then failing (.wrongValue "Empty module name")
    else if isKnown (← get) module then pure ()
    else
      let (package, name) := cutLast module
      match package with
      | some p => s.importNamed fuel p
      | Option.none => pure ()
      if isKnown (← get) module then pure ()
      else
        let folders ← lifted (s.foldersOf (← get) module package)
        match findAmong s.tree name folders with
        | Option.none => failing (missing module)
        | some found =>
          s.load (importWith (s.importNamed fuel) module) module found
          attach module

/-- How long the names are that a file imports from, at most. -/
def importLength : FileContent → Nat
  | .bytes _ => 0
  | .definitions s => (s.definitions.map importedLength).foldr max 0
where
  /-- The length of the name that a definition imports from. -/
  importedLength : Definition.ModuleItem → Nat
    | .imports module _ => module.length
    | _ => 0

/-- How long the names are that the files of a tree import from, at most. -/
def longestImport (t : FileTree) : Nat :=
  (t.entries.map fun e =>
    match e.2 with
    | .folder => 0
    | .file content _ => importLength content).foldr max 0

/-- How deep imports may nest before they count as endless: each file once, and within each the
packages around the names that it imports from. -/
def fuel (s : SearchPath) (module : String) : Nat :=
  (s.tree.entries.length + 1) * (s.folders.length + 1) * (64 + longestImport s.tree) +
    module.length + 1000

/-- The values of names that a module imports from another. -/
def importFrom (s : SearchPath) (importer written : String) (names : List String) :
    Run (List Value) :=
  importWith (s.importNamed (s.fuel written)) importer written names

/-- Runs a module that has been imported before once more. What it has defined stays unless it is
defined again. -/
def reload (s : SearchPath) (module : String) : Run Unit := do
  let w ← get
  if (w.current.lookup module).isNone then pure ()
  else
    let (package, name) := cutLast module
    let folders ← lifted (s.foldersOf w module package)
    match findAmong s.tree name folders with
    | Option.none =>
      failing (.unknownModule ("spec not found for the module " ++ Text.display module))
    | some (.source file folders) =>
      modify fun w => w.changeModule module fun m =>
        { m with file := some (absolute file), folders := folders }
      execute (s.importFrom module) module (contentAt s.tree file)
    | some (.compiled file) => failing (unreadable s.tree module file)
    | some (.portions folders) =>
      modify fun w => w.changeModule module fun m => { m with folders := some folders }

end SearchPath

/-- The world after a module that imports from the library only. -/
def runAlone (w : World) (module : String) (source : Definition.Source) :
    World × Except Fault Unit :=
  let s : SearchPath := ⟨.empty [], []⟩
  let w := w.addModule ⟨module, [], Option.none, Option.none, Option.none, true⟩
  let (r, w) := ((SearchPath.execute (s.importFrom module) module (.definitions source)).run.run w)
  (w, r)

end TypeProjection
