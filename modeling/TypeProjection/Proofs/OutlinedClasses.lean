import TypeProjection.Definition.Run
import TypeProjection.Proofs.WorldOutline

/-!
# Building classes needs outlines only

The header of a class, the order of attribute lookup and the methods that are still to be defined
depend on the outline of the world, and of the attributes in the body, alone.
-/

namespace TypeProjection.Definition

open Annotation

/-- Attributes without annotations. -/
def outlined (attributes : List (String × Attribute)) : List (String × Attribute) :=
  attributes.map fun a => (a.1, a.2.outline)

theorem lookup_outlined (attributes : List (String × Attribute)) (name : String) :
    (outlined attributes).lookup name = (attributes.lookup name).map Attribute.outline :=
  World.lookup_map_snd Attribute.outline name attributes

theorem isAbstract_outline (a : Attribute) : a.outline.isAbstract = a.isAbstract := by
  cases a with
  | property g b => cases g <;> rfl
  | _ => rfl

section Worlds

variable (w : World)

@[simp] theorem outline_fitsProtocol : fitsProtocol w.outline = fitsProtocol w := by
  funext c
  simp only [fitsProtocol, World.outline_moduleOf, World.outline_nameOf, World.outline_derives,
    World.outline_hasProtocolMark]

@[simp] theorem outline_checkProtocol : checkProtocol w.outline = checkProtocol w := by
  funext bases
  simp only [checkProtocol, outline_fitsProtocol, World.outline_displayClass]

@[simp] theorem outline_typeParameters : typeParameters w.outline = typeParameters w := by
  funext h written
  simp only [typeParameters, World.outline_shown]

@[simp] theorem outline_layoutsFit : layoutsFit w.outline = layoutsFit w := by
  funext c d
  simp only [layoutsFit, layoutOf, World.outline_ancestorsOf, World.outline_derives]

@[simp] theorem outline_lookupOrder : lookupOrder w.outline = lookupOrder w := by
  funext bases
  simp only [lookupOrder, outline_layoutsFit, World.outline_ancestorsOf, World.outline_nameOf]

/-! Headers. -/

@[simp] theorem outline_aliasEntries : aliasEntries w.outline = aliasEntries w := by
  have hgeneric : isGenericClass w.outline = isGenericClass w := by
    funext v
    unfold isGenericClass
    simp only [World.outline_derives]
  funext all later origin
  simp only [aliasEntries, hgeneric]

@[simp] theorem outline_replacement : replacement w.outline = replacement w := by
  funext all later v
  unfold replacement notSubclassable
  simp only [outline_aliasEntries, World.outline_shown, World.outline_className]

@[simp] theorem outline_entries : entries w.outline = entries w := by
  funext all vs
  induction vs with
  | nil => rfl
  | cons v later ih => simp only [entries, outline_replacement, ih]

@[simp] theorem outline_metaclassOfBase : metaclassOfBase w.outline = metaclassOfBase w := by
  funext b
  cases b with
  | cls c => simp only [metaclassOfBase, World.outline_metaclassOf]
  | _ => rfl

@[simp] theorem outline_headerOf : headerOf w.outline = headerOf w := by
  funext s p name written words
  simp only [headerOf, outline_entries, outline_metaclassOfBase]

/-! Enumerations. -/

@[simp] theorem outline_enumMembers : enumMembers w.outline = enumMembers w := by
  funext d bases
  simp only [enumMembers, checkEnumBases, numberingOf, dataKindOf, World.outline_ancestorsOf,
    World.outline_isEnumeration, World.outline_membersOf, World.outline_displayClass]

/-! Attributes. -/

/-- Whether an attribute of a class is still to be defined does not depend on its annotation. -/
theorem attribute_isAbstract (c : ClassRef) (name : String) :
    ((w.outline.attributesOf c).lookup name).map Attribute.isAbstract =
      ((w.attributesOf c).lookup name).map Attribute.isAbstract := by
  have hlookup : ∀ attributes : List (String × Attribute),
      (attributes.lookup name).map Attribute.isAbstract =
        ((outlined attributes).lookup name).map Attribute.isAbstract := by
    intro attributes
    rw [lookup_outlined, Option.map_map]
    congr 1
    exact (funext isAbstract_outline).symm
  rw [hlookup, hlookup (w.attributesOf c)]
  exact congrArg (fun attributes => (List.lookup name attributes).map Attribute.isAbstract)
    (w.outline_attributesOf c)

theorem outline_isMissing (own : List (String × Attribute)) (order : List ClassRef) :
    isMissing w.outline (outlined own) order = isMissing w own order := by
  funext name
  unfold isMissing
  rw [lookup_outlined]
  cases own.lookup name with
  | some a => exact isAbstract_outline a
  | none =>
    simp only [Option.map_none]
    congr 2
    funext c
    cases c with
    | library m n => rfl
    | declared i => exact attribute_isAbstract w _ name

/-- What is still to be defined depends on outlines only. -/
theorem outline_missingMethods (h : Header) (own : List (String × Attribute))
    (order : List ClassRef) :
    missingMethods w.outline h (outlined own) order = missingMethods w h own order := by
  have hown : ((outlined own).filter fun a => a.2.isAbstract).map (·.1) =
      (own.filter fun a => a.2.isAbstract).map (·.1) := by
    rw [outlined, List.filter_map, List.map_map]
    simp only [Function.comp_def, isAbstract_outline]
  unfold missingMethods
  rw [outline_isMissing, World.outline_abstractsOf, hown]

end Worlds

end TypeProjection.Definition
