/-!
Lists without repetitions. `distinct` keeps the first occurrence of each element, in order.
-/

namespace TypeProjection

/-- The elements of a list, each at its first occurrence only. -/
def distinct {α : Type} [BEq α] : List α → List α
  | [] => []
  | x :: xs => x :: (distinct xs).filter (fun y => !(x == y))

end TypeProjection
