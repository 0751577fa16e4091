import TypeProjection.Distinct
import TypeProjection.Universe

/-!
All strict supertypes of a type, as definitions. A worklist collects them; a definition enters it
when it is found for the first time, so the list of those found bounds the work. Running out of
fuel is `none`, never a part of the answer.
-/

namespace TypeProjection.Universe

variable {τ : Type} [BEq τ]

/-- Collects what the pending types extend. Of a type's new definitions the last is expanded
first. -/
def supertypesFrom (U : Universe τ) : Nat → List τ → List τ → Option (List τ)
  | _, found, [] => some found
  | 0, _, _ :: _ => none
  | fuel + 1, found, t :: pending =>
    let fresh := distinct ((U.directDefinitions t).filter fun s => !found.contains s)
    supertypesFrom U fuel (found ++ fresh) (fresh.reverse ++ pending)

/-- The definitions of all strict supertypes. -/
def supertypes (U : Universe τ) (t : τ) : Option (List τ) :=
  U.supertypesFrom (U.extent + 1) [] [U.definition t]

end TypeProjection.Universe
