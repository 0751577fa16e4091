/-!
Lists of pairs read as finite maps. A key keeps the place where it was put first.
-/

namespace TypeProjection

/-- An entry put into a list of pairs; a key keeps its first place and takes the last value. -/
def putPair {α β : Type} [BEq α] (key : α) (value : β) : List (α × β) → List (α × β)
  | [] => [(key, value)]
  | (k, v) :: rest => if k == key then (k, value) :: rest else (k, v) :: putPair key value rest

/-- All entries of a list put into another. -/
def putPairs {α β : Type} [BEq α] (base entries : List (α × β)) : List (α × β) :=
  entries.foldl (fun all e => putPair e.1 e.2 all) base

end TypeProjection
