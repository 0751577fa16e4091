import TypeProjection.Definition.Basic
import TypeProjection.Files.Fault
import TypeProjection.Pairs
import TypeProjection.Path

/-!
A tree of files. A place is the list of names that lead to it from the root, and the tree knows
which places are folders and which are files. One folder is the working directory, where relative
paths start. Every file that is written gets a version of its own, later than all before it.
-/

namespace TypeProjection

/-- The names that lead to a place from the root. -/
abbrev Place := List String

/-- What a file holds: bytes, or the definitions of a module. -/
inductive FileContent where
  | bytes (bs : List UInt8)
  | definitions (s : Definition.Source)

/-- What stands at a place. -/
inductive FileNode where
  | folder
  | file (content : FileContent) (version : Nat)

/-- Files and folders, the working directory, and the version for the next file that is written.
The root and all folders on the way to the working directory are there without an entry. -/
structure FileTree where
  home : Place
  entries : List (Place × FileNode)
  clock : Nat

namespace FileTree

/-- A tree with an empty working directory. -/
def empty (home : Place) : FileTree := ⟨home, [], 0⟩

/-- What stands at a place, if anything. -/
def node? (t : FileTree) (p : Place) : Option FileNode :=
  if p.isPrefixOf t.home then some .folder else t.entries.lookup p

/-- Is the place a folder? -/
def isFolderAt (t : FileTree) (p : Place) : Bool :=
  match t.node? p with
  | some .folder => true
  | _ => false

/-- Is the place a file? -/
def isFileAt (t : FileTree) (p : Place) : Bool :=
  match t.node? p with
  | some (.file _ _) => true
  | _ => false

/-- The places below a place, by the names that lead there from it. -/
def below (t : FileTree) (p : Place) : List (List String × FileNode) :=
  t.entries.filterMap fun e =>
    if p.isPrefixOf e.1 && p.length < e.1.length then some (e.1.drop p.length, e.2) else none

/-- The names in a folder. -/
def names (t : FileTree) (p : Place) : List (String × FileNode) :=
  (t.below p).filterMap fun e =>
    match e.1 with
    | [n] => some (n, e.2)
    | _ => none

/-- Where a path starts. -/
def start (t : FileTree) (p : Path) : Place := if p.isAbsolute then [] else t.home

/-- The place that names lead to from a folder; every place that is gone through has to be a
folder, and `..` leads back. -/
def follow (t : FileTree) : Place → List String → Option Place
  | here, [] => (t.node? here).map fun _ => here
  | here, n :: rest =>
    if !t.isFolderAt here then none
    else if n == ".." then t.follow here.dropLast rest
    else t.follow (here ++ [n]) rest

/-- The place of a path, if something stands there. -/
def place? (t : FileTree) (p : Path) : Option Place := t.follow (t.start p) p.parts

/-- Does something stand at a path? -/
def has (t : FileTree) (p : Path) : Bool := (t.place? p).isSome

/-- Is the path one of a folder? -/
def isFolder (t : FileTree) (p : Path) : Bool := ((t.place? p).map t.isFolderAt).getD false

/-- Is the path one of a file? -/
def isFile (t : FileTree) (p : Path) : Bool := ((t.place? p).map t.isFileAt).getD false

/-- How many bytes a name may have. -/
def nameLimit : Nat := 255

/-- How many bytes a path may have. -/
def pathLimit : Nat := 4095

/-- Does a walk from a folder come to a name that is too long? It ends before where something is
missing or no folder. -/
def reachesOverlong (t : FileTree) : Place → List String → Bool
  | _, [] => false
  | here, n :: rest =>
    t.isFolderAt here && (nameLimit < n.utf8ByteSize ||
      t.reachesOverlong (if n == ".." then here.dropLast else here ++ [n]) rest)

/-- Is the path too long to be looked up, or a name that its lookup comes to? -/
def meetsOverlong (t : FileTree) (p : Path) : Bool :=
  pathLimit < p.text.utf8ByteSize || t.reachesOverlong (t.start p) p.parts

/-- The place that a path means whether or not anything stands there: `..` takes back the name
before it. -/
def resolve (t : FileTree) (p : Path) : Place :=
  p.parts.foldl (fun here n => if n == ".." then here.dropLast else here ++ [n]) (t.start p)

/-- Is a file on the way to the path? -/
def isBlocked (t : FileTree) : Place → List String → Bool
  | here, [] => t.isFileAt here
  | here, n :: rest =>
    t.isFileAt here || t.isBlocked (if n == ".." then here.dropLast else here ++ [n]) rest

/-- Why nothing can be found at a path: a file is on the way, or something is missing. -/
def absence (t : FileTree) (p : Path) : FileFault :=
  if t.isBlocked (t.start p) p.parts.dropLast then .notFolder p.text else .notFound p.text

/-- The bytes of the file at a path. Definitions have no bytes. -/
def readBytes (t : FileTree) (p : Path) : Except FileFault (List UInt8) :=
  match (t.place? p).bind t.node? with
  | none => .error (t.absence p)
  | some .folder => .error (.isFolder p.text)
  | some (.file (.bytes bs) _) => .ok bs
  | some (.file (.definitions _) _) => .ok []

/-- The text of the file at a path, with every line end written as `\n`. -/
def readText (t : FileTree) (p : Path) : Except FileFault String := do
  match Text.decode (← t.readBytes p) with
  | .ok cs => return String.ofList (Text.unifyLineEnds cs)
  | .error u => .error (.undecodable u)

/-- The tree with a node at a place. -/
def putNode (t : FileTree) (p : Place) (n : FileNode) : FileTree :=
  if p.isPrefixOf t.home then t else { t with entries := putPair p n t.entries }

/-- The folders that lead to a place. -/
def parents (p : Place) : List Place := (List.range p.length).map fun n => p.take n

/-- The tree with a folder at a place and all folders that lead to it. -/
def addFolder (t : FileTree) (p : Place) : FileTree :=
  (parents p ++ [p]).foldl (fun t q => if (t.node? q).isSome then t else t.putNode q .folder) t

/-- The tree with a file written at a place, and all folders that lead to it. -/
def write (t : FileTree) (p : Place) (content : FileContent) : FileTree :=
  let t := t.addFolder p.dropLast
  { t.putNode p (.file content t.clock) with clock := t.clock + 1 }

/-- The tree without a place and all below it. -/
def remove (t : FileTree) (p : Place) : FileTree :=
  { t with entries := t.entries.filter fun e => !p.isPrefixOf e.1 }

/-- The paths that lead to a path, itself last. -/
def prefixes (p : Path) : List Path :=
  (List.range (p.parts.length + 1)).map fun n => { p with parts := p.parts.take n }

/-- The tree with a folder made at a path, and all folders that lead to it. What is there already
has to be a folder. -/
def makeFolders (t : FileTree) (p : Path) : Except FileFault FileTree :=
  (prefixes p).foldlM (fun t q =>
    match t.place? q with
    | none => .ok (t.addFolder (t.resolve q))
    | some place =>
      if t.isFolderAt place then .ok t
      else .error (if q == p then .taken p.text else .notFolder p.text)) t

/-- The tree with a text written to the file at a path. Its folder has to be there. -/
def writeText (t : FileTree) (p : Path) (s : String) : Except FileFault FileTree :=
  match t.place? p with
  | some q =>
    if t.isFolderAt q then .error (.isFolder p.text)
    else .ok (t.write q (.bytes (Text.encode s)))
  | none =>
    if t.isFolder p.parent then .ok (t.write (t.resolve p) (.bytes (Text.encode s)))
    else .error (t.absence p)

end FileTree

end TypeProjection
