import TypeProjection.Definition.Reader
import TypeProjection.Files.Tree

/-!
Trees written as JSON. An object gives what stands at each path of the working directory: a text,
bytes as hexadecimal digits, the definitions of a module, or null for what is taken away. A path
that ends in a slash is a folder.
-/

namespace TypeProjection.FileTree

/-- The place of a path in the working directory. -/
def placeIn (t : FileTree) (path : String) : Place := t.home ++ Path.namesOf path

/-- The bytes that pairs of hexadecimal digits write. -/
def bytesOf (digits : String) : List UInt8 := (bytesOfHex digits.toList).map UInt8.ofNat

/-- What a file holds. -/
def contentOf (j : Json) : FileContent :=
  match j, j.strOf? "hex" with
  | .str s, _ => .bytes (Text.encode s)
  | _, some digits => .bytes (bytesOf digits)
  | _, none => .definitions (.ofJson j)

/-- The tree after one entry. -/
def edit (t : FileTree) (path : String) (j : Json) : FileTree :=
  let p := t.placeIn path
  match j with
  | .null => t.remove p
  | j => if path.toList.getLast? == some '/' then t.addFolder p else t.write p (contentOf j)

/-- The tree after the entries of an object. -/
def editAll (t : FileTree) (entries : List (String × Json)) : FileTree :=
  entries.foldl (fun t e => t.edit e.1 e.2) t

end TypeProjection.FileTree
