import TypeProjection.Files.Sources
import TypeProjection.Session.Fault
import TypeProjection.Session.Import

/-!
Loading inputs. A path input is loaded file by file, each file as a module with a name made from
its path, and again only when its version has changed; any other input is imported by its name. The
roots of a run are then the names asked for, or the public classes that each module defines.
-/

namespace TypeProjection

open Annotation
open Definition (Run)

/-- What lasts from one run to the next: the modules, the files, and the folders that were added to
the search path, latest first. -/
structure Session where
  world : World
  tree : FileTree
  folders : List Place

namespace Session

/-- A session that has loaded nothing yet. -/
def fresh (t : FileTree) : Session := ⟨World.initial, t, [t.home]⟩

/-- Where modules are looked for. -/
def searchPath (s : Session) : SearchPath := ⟨s.tree, s.folders⟩

end Session

/-- A step that loads something, and may fail. -/
abbrev Loading := ExceptT InputFault (StateM Session)

namespace Loading

/-- A step of a module, with a failure of it reported as a cause. -/
def running {α : Type} (cause : Fault → InputFault) (body : Run α) : Loading α := do
  let s ← get
  let (r, w) := body.run.run s.world
  set { s with world := w }
  match r with
  | .ok a => return a
  | .error f => throw (cause f)

/-- A failure. -/
def failed {α : Type} (f : InputFault) : Loading α := throw f

end Loading

/-- A module that inputs gave: one that has been run, by its serial, or one of the library. -/
inductive ModuleHandle where
  | loaded (serial : Nat)
  | library (name : String)
  deriving DecidableEq, Repr

/-- A module with the names asked for in it; no names ask for its public classes. -/
structure InputModule where
  handle : ModuleHandle
  requested : List String
  deriving DecidableEq, Repr

namespace ModuleHandle

/-- The module that was run under a serial. -/
def module? (w : World) : ModuleHandle → Option LoadedModule
  | .loaded i => w.modules[i]?
  | .library _ => none

/-- The name of a module. -/
def name (w : World) (h : ModuleHandle) : String :=
  match h with
  | .loaded i => (w.modules[i]?.map LoadedModule.name).getD ""
  | .library name => name

/-- The file of a module. -/
def file (w : World) (h : ModuleHandle) : Option String := (h.module? w).bind LoadedModule.file

/-- The value of a name in a module. -/
def attribute? (w : World) (h : ModuleHandle) (name : String) : Option Value :=
  match h with
  | .loaded i => w.modules[i]?.bind fun m => World.loadedName? m name
  | .library module => w.moduleName? module name

/-- The names of a module with their values, in order. -/
def names (w : World) (h : ModuleHandle) : List (String × Value) :=
  match h with
  | .loaded i => (w.modules[i]?.map LoadedModule.names).getD []
  | .library module =>
    ((libraryClasses.filter fun c => c.module == module).map LibraryClass.name).filterMap fun n =>
      (w.moduleName? module n).map fun v => (n, v)

end ModuleHandle

namespace Loading

/-- The module of a name that has been imported. -/
def handleOf (module : String) : Loading ModuleHandle := do
  match (← get).world.current.lookup module with
  | some i => return .loaded i
  | none => return .library module

/-- The folder of a file is searched first from now on. -/
def addFolder (p : Place) : Loading Unit :=
  modify fun s => if s.folders.contains p then s else { s with folders := p :: s.folders }

/-- Runs what stands at a place as the body of a module. -/
def bodyAt (s : Session) (module : String) (p : Path) (place : Place) :
    Except FileFault (Run Unit) :=
  match s.tree.node? place with
  | some (.file content _) =>
    .ok (SearchPath.execute (s.searchPath.importFrom module) module content)
  | _ => .error (.isFolder p.text)

/-- A cause that quotes the text of a fault. If the fault has none, what is raised instead is passed
on. -/
def quoting (cause : String → InputFault) (f : Fault) : InputFault :=
  match f.message with
  | .ok text => cause text
  | .error inner => .definition inner

/-- What goes wrong with a file whose body fails. -/
def bodyFault (p : Path) : Fault → InputFault := quoting (.failedFile p.text)

/-- Runs a file as a new module and keeps the version that was run. -/
def launchFile (p : Path) (place : Place) (module : String) (version : Option Nat) :
    Loading ModuleHandle := do
  let s ← get
  match bodyAt s module p place with
  | .error f => failed (.failedFile p.text f.message)
  | .ok body =>
    running (bodyFault p)
      (SearchPath.launch ⟨module, [], some p.text, none, none, false⟩ body)
    modify fun s =>
      { s with world := s.world.changeModule module fun m => { m with version := version } }
    handleOf module

/-- The version of the file at a place. -/
def versionAt (t : FileTree) (p : Place) : Option Nat :=
  match t.node? p with
  | some (.file _ version) => some version
  | _ => none

/-- Loads the file at a path. A file whose version has been run already is not run again. -/
def loadFile (p : Path) : Loading ModuleHandle := do
  let t := (← get).tree
  addFolder (t.resolve p.parent)
  match moduleNameOf? p with
  | none => failed (.emptyName p.text)
  | some module =>
    match t.place? p with
    | none => failed (.file (t.absence p))
    | some place =>
      let version := versionAt t place
      let w := (← get).world
      if ((w.loaded? module).bind LoadedModule.version).isSome &&
          (w.loaded? module).bind LoadedModule.version == version then
        handleOf module
      else
        modify fun s => { s with world := s.world.forgetModule module }
        if Text.startsWith p.text.toList.reverse FileTree.sourceSuffix.toList.reverse then
          launchFile p place module version
        else failed (.unloadable p.text)

/-- What goes wrong with an import: something is not found, or anything else. -/
def importFault (module : String) (f : Fault) : InputFault :=
  if f.isImportFault then quoting (.failedImport module) f else .definition f

/-- Imports a module by its name, and runs it once more if it is to be reloaded. -/
def importInput (reload : Bool) (module : String) : Loading ModuleHandle := do
  if module.toList.head? == some '.' then
    failed (.definition (.wrongType
      ("the 'package' argument is required to perform a relative import for " ++
        Text.display module)))
  else
    let s := (← get).searchPath
    running (importFault module) (s.importNamed (s.fuel module) module)
    if reload then running (importFault module) (s.reload module) else pure ()
    handleOf module

/-- The module and the names that an input asks for. -/
def cutInput (input : String) : String × List String :=
  match Text.cutAt ':' input.toList with
  | none => (input, [])
  | some (module, names) =>
    (String.ofList module,
      ((Text.pieces ',' names).map fun n => String.ofList (Text.strip n)).filter (· != ""))

/-- Loads the files at places that have not been loaded yet, and gives the places loaded so far. -/
def loadFiles (done : List Place) : List Place → Loading (List Place × List InputModule)
  | [] => return (done, [])
  | p :: rest => do
    if done.contains p then loadFiles done rest
    else
      let h ← loadFile ⟨"/", p⟩
      let (done, more) ← loadFiles (done ++ [p]) rest
      return (done, ⟨h, []⟩ :: more)

/-- Loads inputs in order, given the places loaded so far. -/
def loadFrom (reload : Bool) (done : List Place) : List String → Loading (List InputModule)
  | [] => return []
  | input :: rest => do
    let t := (← get).tree
    if t.isOverlong input then failed (.file (.overlong (Path.ofText input).text))
    else if t.looksLikePath input then
      let files := t.collect [input]
      if files.isEmpty then failed (.noFiles input)
      else
        let (done, modules) ← loadFiles done files
        return modules ++ (← loadFrom reload done rest)
    else
      let (module, names) := cutInput input
      let h ← importInput reload module
      return ⟨h, names⟩ :: (← loadFrom reload done rest)

/-- Loads inputs in order. Every file is loaded once. -/
def loadInputs (reload : Bool) (inputs : List String) : Loading (List InputModule) :=
  loadFrom reload [] inputs

end Loading

namespace InputModule

/-- Is the entry a public class that the module of a name defines? -/
def isPublicClass (w : World) (module : String) (entry : String × Value) : Bool :=
  match entry with
  | (name, .cls c) => name.toList.head? != some '_' && w.moduleOf c == module
  | _ => false

/-- The roots that a module gives. -/
def roots (w : World) (m : InputModule) : Except InputFault (List Value) :=
  if m.requested.isEmpty then
    .ok (((m.handle.names w).filter (isPublicClass w (m.handle.name w))).map (·.2))
  else
    m.requested.mapM fun n =>
      match m.handle.attribute? w n with
      | some v => .ok v
      | none => .error (.noAttribute (m.handle.name w) n)

/-- The roots that modules give, in order. -/
def allRoots (w : World) (ms : List InputModule) : Except InputFault (List Value) := do
  return (← ms.mapM (roots w)).flatten

end InputModule

end TypeProjection
