import TypeProjection.Files.Tree
import TypeProjection.Rendering

/-!
Templates in a folder of a tree. A folder that is not there is replaced by the packaged one.
-/

namespace TypeProjection.FileTree

open Template (Loader)

/-- The template of a name in a folder: a name may lead through folders, but not out of them. -/
def readTemplate (t : FileTree) (folder : Path) (name : String) :
    Option (Except String String) :=
  let names := ((Text.pieces '/' name.toList).map String.ofList).filter fun n =>
    n != "" && n != "."
  let p : Path := { folder with parts := folder.parts ++ names }
  if names.contains ".." || !t.isFile p then none
  else
    match t.readText p with
    | .ok text => some (.ok text)
    | .error f => some (.error f.message)

/-- The templates of a folder, or the packaged ones. `packaged` is what the packaged folder is
called in reports. -/
def templates (t : FileTree) (packaged : String) (folder : Option Path) : Loader :=
  match folder.filter t.has with
  | some folder => ⟨folder.text, t.readTemplate folder⟩
  | none => packagedLoader packaged

end TypeProjection.FileTree
