import TypeProjection.Walk

/-!
Finite graphs of types. A type is a key, and its node answers every question about it; a key
without a node has the answers of an empty one. A walk nests at most once for every claimed type,
and between two claims it follows parts of types, so the bound on its depth is quadratic.
-/

namespace TypeProjection

/-- The answers for one type of a graph. The definition of a type is itself unless stated. -/
structure GraphNode where
  displayName : String
  name : String
  isEnum : Bool
  isInterface : Bool
  isAbstract : Bool
  isStructural : Bool
  isParameter : Bool
  isDefinition : Bool
  isConstructed : Bool
  needsConstructor : Bool
  primitive : Option PrimitiveKind
  definition : Option String
  arguments : List String
  bounds : List String
  alternatives : List String
  base : Option String
  interfaces : List String
  members : List (String × String)
  enumMembers : List (String × Literal)
  element : Option String
  keyValue : Option (String × String)
  tuple : Option (List String)
  union : List String

/-- The node of a structure without fields. -/
def GraphNode.plain (key : String) : GraphNode where
  displayName := "g." ++ key
  name := key
  isEnum := false
  isInterface := false
  isAbstract := false
  isStructural := true
  isParameter := false
  isDefinition := false
  isConstructed := false
  needsConstructor := false
  primitive := none
  definition := none
  arguments := []
  bounds := []
  alternatives := []
  base := none
  interfaces := []
  members := []
  enumMembers := []
  element := none
  keyValue := none
  tuple := none
  union := []

/-- A graph of types: its keys with their nodes. -/
structure TypeGraph where
  nodes : List (String × GraphNode)

namespace TypeGraph

/-- Is there a node for a key? -/
def has (g : TypeGraph) (key : String) : Bool := (g.nodes.lookup key).isSome

/-- The node of a key. -/
def node (g : TypeGraph) (key : String) : GraphNode :=
  (g.nodes.lookup key).getD (GraphNode.plain key)

/-- The universe whose types are the keys of a graph. -/
def types (g : TypeGraph) : Universe String where
  displayName t := (g.node t).displayName
  name t := (g.node t).name
  isEnum t := (g.node t).isEnum
  isInterface t := (g.node t).isInterface
  isAbstract t := (g.node t).isAbstract
  isStructural t := (g.node t).isStructural
  isParameter t := (g.node t).isParameter
  isDefinition t := (g.node t).isDefinition
  isConstructed t := (g.node t).isConstructed
  needsConstructor t := (g.node t).needsConstructor
  primitive t := (g.node t).primitive
  definition t := (g.node t).definition.getD t
  arguments t := (g.node t).arguments
  bounds t := (g.node t).bounds
  alternatives t := (g.node t).alternatives
  base t := (g.node t).base
  interfaces t := (g.node t).interfaces
  members t := (g.node t).members
  enumMembers t := (g.node t).enumMembers
  element t := (g.node t).element
  keyValue t := (g.node t).keyValue
  tuple t := (g.node t).tuple
  union t := (g.node t).union
  memberNotes _ := []
  boundNotes _ := []
  alternativeNotes _ := []
  extent := g.nodes.length
  depth := (g.nodes.length + 2) * (g.nodes.length + 2)

end TypeGraph

end TypeProjection
