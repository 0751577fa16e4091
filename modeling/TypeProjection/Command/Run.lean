import TypeProjection.Annotation.Types
import TypeProjection.Command.Arguments
import TypeProjection.Command.Fault
import TypeProjection.Command.Watch
import TypeProjection.Files.Templates
import TypeProjection.Generation
import TypeProjection.Session.Inputs

/-!
The command. It reads the settings and its arguments, loads the inputs, declares what they need and
writes the declarations out. While it watches, every change of a source file next to the inputs
starts another round; a round that fails is reported, and the next one starts from what has been
loaded until then.
-/

namespace TypeProjection.Command

open Annotation

/-- What a run prints and leaves behind. -/
structure Console where
  session : Session
  out : String
  err : String
  /-- The places of the files that were written. -/
  written : List Place

/-- A step of the command, which may fail. -/
abbrev Job := ExceptT Fault (StateM Console)

namespace Job

/-- Prints a text. -/
def print (s : String) : StateM Console Unit := modify fun c => { c with out := c.out ++ s }

/-- Prints a line among the errors. -/
def complain (s : String) : StateM Console Unit :=
  modify fun c => { c with err := c.err ++ s ++ "\n" }

/-- A failure. -/
def failed {α : Type} (f : Fault) : Job α := throw f

/-- A result that may be a failure. -/
def lifted {α ε : Type} (cause : ε → Fault) (r : Except ε α) : Job α :=
  match r with
  | .ok a => pure a
  | .error e => throw (cause e)

/-- A step on the session. -/
def loading {α : Type} (body : Loading α) : Job α := do
  let c ← get
  let (r, s) := body.run.run c.session
  set { c with session := s }
  lifted Fault.input r

/-- Reports an event: all of them if asked to, or else the warnings alone. -/
def report (verbose : Bool) (e : Event) : StateM Console Unit :=
  if verbose then complain ("[tsgen] " ++ e.line)
  else if e.isWarning then complain e.message
  else pure ()

end Job

/-- The name of descriptors of types in a template. -/
def handle : String := "PythonTypeDescriptor"

/-- The full name of descriptors of types. -/
def fullHandle : String := "tsgen.reflection." ++ handle

/-- The choices that the arguments make. An empty path is none. -/
def Arguments.choices (a : Arguments) : Choices :=
  let path (s : Option String) : Option Path := (s.filter (· != "")).map Path.ofText
  let set (b : Bool) : Option Bool := if b then some true else Option.none
  ⟨a.skip, set a.interfacesOnly, set a.dates, path a.template, path a.typeMap⟩

/-- The configuration that settings and arguments give. -/
def configure (t : FileTree) (environment : List (String × String)) (a : Arguments) :
    Except Fault Configuration :=
  match Settings.load t [] environment with
  | .error f => .error (.settings f)
  | .ok s =>
    match Configuration.make t s a.choices with
    | .error f => .error (.file f)
    | .ok c => .ok c

/-- What a run is asked for. -/
structure Request where
  arguments : Arguments
  configuration : Configuration
  /-- What the folder of packaged templates is called. -/
  templates : String

/-- Where the text goes, if not to the output. -/
def Request.target (r : Request) : Option Path :=
  (r.arguments.out.filter (· != "")).map Path.ofText

/-- Changes the files. -/
def setTree (t : FileTree) : StateM Console Unit :=
  modify fun c => { c with session := { c.session with tree := t } }

/-- Notes that a file was written, unless it held the same text before. -/
def noteWritten (t : FileTree) (p : Path) (text : String) : StateM Console Unit :=
  let isSame := match t.readText p with
    | .ok old => t.isFile p && old == text
    | .error _ => false
  modify fun c => if isSame then c else { c with written := c.written ++ [t.resolve p] }

/-- Leaves a text in the file at a path, and notes it. -/
def store (p : Path) (text : String) : Job Unit := do
  let t ← Job.lifted Fault.file ((← get).session.tree.makeFolders p.parent)
  setTree t
  let written ← Job.lifted Fault.file (t.writeText p text)
  setTree written
  noteWritten t p text

/-- Writes a text out, and gives it. One with a surrogate in it cannot be written; the file that it
should go to has been opened by then, and is left empty. -/
def emit (target : Option Path) (text : List Text.Point) : Job String :=
  match target, Text.ofPoints? text with
  | Option.none, some s => do
    Job.print s
    return s
  | some p, some s => do
    store p s
    Job.print ("[tsgen] OK -> " ++ p.text ++ "\n")
    return s
  | Option.none, Option.none => Job.failed (.file (.unencodable text))
  | some p, Option.none => do
    store p ""
    Job.failed (.file (.unencodable text))

/-- Declares what roots need and lays it out, reporting on the way. -/
def generate (r : Request) (roots : List Value) : Job (List Text.Point) := do
  let w := (← get).session.world
  let options ← Job.lifted Fault.pattern (r.configuration.options (τ := Value))
  match w.types.generate options (packagedLoader r.templates)
      (w.types.record handle fullHandle) (roots.map w.describe) with
  | Option.none => Job.failed .endless
  | some g => do
    g.events.forM fun e => (Job.report r.arguments.verbose e : StateM Console Unit)
    Job.lifted Fault.template g.text

/-- What the inputs give: they are loaded, and the declarations of their types are laid out. -/
def produce (r : Request) (reload : Bool) : Job (List Text.Point) := do
  let modules ← Job.loading (Loading.loadInputs reload r.arguments.inputs)
  let w := (← get).session.world
  let roots ← Job.lifted Fault.input (InputModule.allRoots w modules)
  if roots.isEmpty then Job.failed .noTypes else generate r roots

/-- One run: what the inputs give is written out. -/
def runOnce (r : Request) (reload : Bool) : Job String := do
  emit r.target (← produce r reload)

/-- Reports a failure. If no text can be made of it, reporting fails as well. -/
def reportFailure (f : Fault) : Job Unit :=
  match f.message with
  | .ok text => Job.complain ("[tsgen] FAILED: " ++ text)
  | .error cause => Job.failed (.input (.definition cause))

/-- One round of watching: a run whose failure is reported. -/
def runRound (r : Request) (reload : Bool) : Job Unit := do
  try
    let _ ← runOnce r reload
  catch f => reportFailure f

/-- The folders that are watched: those of the files that the inputs gave, in order. -/
def watchedFolders (s : Session) (modules : List InputModule) : List String :=
  let folders := modules.filterMap fun m =>
    (m.handle.file s.world).map fun f =>
      SearchPath.absolute (s.tree.resolve (Path.ofText f)).dropLast
  (distinct folders).mergeSort fun a b => decide (a ≤ b)

/-- Lists texts, one on each line. -/
def listed (items : List String) : String := String.join (items.map fun s => "  - " ++ s ++ "\n")

/-- Starts to watch: a first round, and the folders. Without a folder there is nothing to watch. -/
def beginWatching (r : Request) : Job Bool := do
  let modules ← Job.loading (Loading.loadInputs false r.arguments.inputs)
  let folders := watchedFolders (← get).session modules
  if folders.isEmpty then
    Job.complain "[tsgen] ERROR: no watchable source directories in inputs."
    return false
  else
    runRound r false
    Job.print ("[tsgen] Watching:\n" ++ listed folders)
    return true

/-- Changes that come at once: what becomes of the files, and the paths that are reported. -/
structure Batch where
  edit : FileTree → FileTree
  paths : List String

/-- The paths of a batch that are watched. -/
def Batch.watched (b : Batch) : List String := b.paths.filter isWatched

/-- A round of watching after changes at paths. -/
def watchRound (r : Request) (paths : List String) : Job Unit := do
  let changed := (distinct paths).mergeSort fun a b => decide (a ≤ b)
  Job.print ("\n[tsgen] Change detected:\n" ++ listed changed)
  runRound r true

/-- What happens at changes: the files are others, and a round is run unless none of the paths is
watched. -/
def change (r : Request) (b : Batch) : Job Unit := do
  setTree (b.edit (← get).session.tree)
  if b.watched.isEmpty then pure () else watchRound r b.watched

/-- Watches through batches of changes, until a failure cannot be reported. -/
def watch (r : Request) (batches : List Batch) : Job Unit := batches.forM (change r)

/-- How the command ends. -/
inductive Ending where
  | exited (code : Nat)
  /-- A failure had no text, and what was raised in its place is not caught. -/
  | raised (cause : Annotation.Fault)

/-- Ends the command with a failure. -/
def finish (f : Fault) : StateM Console Ending :=
  match f.message with
  | .ok text => do
    Job.complain ("tsgen: " ++ text)
    return .exited 1
  | .error cause => return .raised cause

/-- How a command has begun: it is over, or it goes on watching. -/
inductive Started where
  | ended (ending : Ending)
  | watching (r : Request)

/-- Runs the command up to the point where it waits for changes. -/
def start (templates : String) (environment : List (String × String)) (a : Arguments) :
    StateM Console Started := do
  let body : Job Started := do
    let c ← get
    let configuration ← Job.lifted id (configure c.session.tree environment a)
    let r : Request := ⟨a, configuration, templates⟩
    if a.watch then
      if ← beginWatching r then return .watching r else return .ended (.exited 2)
    else
      let _ ← runOnce r false
      return .ended (.exited 0)
  match ← body.run with
  | .ok s => return s
  | .error f => return .ended (← finish f)

/-- Runs the command through batches of changes. -/
def run (templates : String) (environment : List (String × String)) (a : Arguments)
    (batches : List Batch) : StateM Console Ending := do
  match ← start templates environment a with
  | .ended ending => return ending
  | .watching r =>
    match ← (watch r batches).run with
    | .ok () => return .exited 0
    | .error f => finish f

/-- The console before anything is run. -/
def Console.fresh (t : FileTree) : Console := ⟨Session.fresh t, "", "", []⟩

end TypeProjection.Command
