import TypeProjection.Rendering
import TypeProjection.Walk

/-!
A whole run: the declarations that the roots need, laid out as text.
-/

namespace TypeProjection

/-- What a whole run gives: its reports, and the text or the reason why there is none. -/
structure Generated where
  events : List Event
  text : Except Template.Fault (List Text.Point)

/-- Declares what the roots need and lays it out. -/
def Universe.generate {τ : Type} [BEq τ] (U : Universe τ) (options : Options τ)
    (l : Template.Loader) (source : τ → Template.Value) (roots : List τ) : Option Generated :=
  (U.collect options roots).map fun r =>
    let r := r.report (.rendering r.types.length r.enums.length)
    ⟨r.events, renderDeclarations l options.template source r.types r.enums⟩

end TypeProjection
