import TypeProjection.Command.Run
import TypeProjection.Files.Bundle

/-!
The command line. The files of the working directory, the environment and the changes to watch for
come as one JSON object on the standard input; what the command writes goes to the standard output
and to files.
-/

namespace TypeProjection.Command

/-- The JSON value on the standard input, or an empty object. -/
def readBundle : IO Json := do
  let text ← (← IO.getStdin).getLine
  return (Json.parse text).getD (.obj [])

/-- The paths that a change reports. -/
def reportedPaths (home : Place) (entry : Json) : List String :=
  ((entry.itemsOf "events").filterMap Json.str?).map fun path =>
    SearchPath.absolute (home ++ Path.namesOf path)

/-- The changes of a bundle, in order. -/
def batchesOf (home : Place) (bundle : Json) : List Batch :=
  (bundle.itemsOf "changes").map fun entry =>
    ⟨(·.editAll (entry.entriesOf "edits")), reportedPaths home entry⟩

/-- Runs the command on a bundle to its end. -/
def runBundle (a : Arguments) (bundle : Json) : Ending × Console :=
  let home : Place := ["workspace"]
  let tree := (FileTree.empty home).editAll (bundle.entriesOf "files")
  let environment := (bundle.entriesOf "env").filterMap fun e => e.2.str?.map fun s => (e.1, s)
  (run "templates" environment a (batchesOf home bundle)).run (Console.fresh tree)

/-- Writes the files that the command wrote. -/
def writeFiles (c : Console) : IO Unit :=
  c.written.forM fun place => do
    match c.session.tree.readText ⟨"/", place⟩ with
    | .ok text =>
      let names := place.drop c.session.tree.home.length
      let folder := String.intercalate "/" names.dropLast
      if folder != "" then IO.FS.createDirAll folder
      IO.FS.writeFile (String.intercalate "/" names) text
    | .error _ => pure ()

end TypeProjection.Command

open TypeProjection.Command in
/-- Runs the command. -/
def main (arguments : List String) : IO UInt32 := do
  match Arguments.parse arguments with
  | .error usage =>
    if usage.message != "" then IO.eprintln usage.message
    return UInt32.ofNat usage.exitCode
  | .ok a =>
    let (ending, console) := runBundle a (← readBundle)
    IO.print console.out
    IO.eprint console.err
    writeFiles console
    match ending with
    | .exited code => return UInt32.ofNat code
    | .raised cause =>
      IO.eprintln (cause.kind ++ ": " ++ cause.shown)
      return 1
