import TypeProjection.Proofs.WorldOutline

/-!
# Worlds without annotations of fields

A world whose classes have lost the annotations of their fields has the outline of the world, and
its properties are the same. So worlds that differ in such annotations alone agree on everything but
the fields of their classes.
-/

namespace TypeProjection.Annotation

/-- A class without its annotations. -/
def ClassInfo.bare (info : ClassInfo) : ClassInfo := { info with annotations := [] }

namespace World

/-- A world whose classes have no annotations. -/
def bare (w : World) : World := { w with classes := w.classes.map ClassInfo.bare }

variable (w : World)

theorem outline_bare : w.bare.outline = w.outline := by
  unfold outline bare
  rw [Array.map_map]
  rfl

theorem bare_moduleOf : w.bare.moduleOf = w.moduleOf :=
  eq_of_outline outline_moduleOf (outline_bare w)

theorem bare_classNames : w.bare.classNames = w.classNames :=
  eq_of_outline outline_classNames (outline_bare w)

theorem bare_annotationType : w.bare.annotationType = w.annotationType :=
  eq_of_outline outline_annotationType (outline_bare w)

theorem bare_propertiesOf : w.bare.propertiesOf = w.propertiesOf := by
  have hattributes : w.bare.attributesOf = w.attributesOf := by
    funext c
    cases c with
    | library m n => rfl
    | declared i =>
      simp only [attributesOf, bare, Array.getElem?_map, Option.map_map]
      rfl
  funext c
  simp only [propertiesOf, hattributes, bare_annotationType]

/-- Worlds that differ in annotations only are the same universe, if the fields of their classes are
the same. -/
theorem types_eq_of_bare_eq {w w' : World} (h : w.bare = w'.bare)
    (hf : w.fieldsOf = w'.fieldsOf) : w.types = w'.types := by
  have houtline : w.outline = w'.outline := by rw [← outline_bare w, h, outline_bare w']
  have hproperties : w.propertiesOf = w'.propertiesOf := by
    rw [← bare_propertiesOf w, h, bare_propertiesOf w']
  have hdescribe : w.describe = w'.describe := eq_of_outline outline_describe houtline
  refine types_eq_of_outline_eq houtline ?_ ?_
  · funext v
    simp only [typeMembers, hf, hproperties, hdescribe]
  · funext v
    simp only [memberNotesOf, hf, hproperties]

end World

end TypeProjection.Annotation
