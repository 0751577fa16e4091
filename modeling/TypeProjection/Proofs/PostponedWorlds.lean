import TypeProjection.Proofs.Quotation
import TypeProjection.Proofs.WorldOutline

/-!
# Annotations that are kept as text

An annotation that is kept as its text is resolved later, among the names of its class and of its
module; that of a property knows the names of the module only. Two worlds, one with the values of
annotations and one with their texts, are the same universe if every text says what the value is.
-/

namespace TypeProjection.Annotation.World

variable {w w' : World} {names : Surroundings} {v u t : Value}

/-- Nothing in the value is left to resolve, whatever texts may stand for. -/
structure Textless (w : World) (v : Value) : Prop where
  resolves : ∀ R, w.resolveParts R v = .ok v
  ne_str : ∀ s, v ≠ .str s

theorem Textless.ne_forward (h : w.Textless v) (s m : String) (f : Bool) : v ≠ .forward s m f := by
  rintro rfl
  have hfails := h.resolves fun _ => .error .endless
  rw [resolveParts] at hfails
  cases hfails

/-- The value is a text of the expression, or what checking that it is a type makes of the text. -/
def IsTextOf (t : Value) (e : Expr) : Prop := t = .str e.text ∨ ∃ m f, t = .forward e.text m f

/-- A value and its text, as annotations among names. A value that was checked to be a type has the
class of absent values where the text says that there is none. -/
inductive Awaits (w : World) (names : Surroundings) : Value → Value → Prop
  | same (v : Value) : w.Awaits names v v
  | text {e : Expr} {u v t : Value} (hw : Writes e.text e)
      (hu : w.evaluate names.scope e = .ok u) (hf : w.Textless u)
      (hv : v = u ∨ u = .none ∧ v = Value.noneType)
      (ht : IsTextOf t e) : w.Awaits names v t

/-- A value without texts stands for itself. -/
theorem Textless.annotationType (h : w.Textless v) (locals : List (String × Value))
    (module : String) : w.annotationType locals module v = (v, []) := by
  have hresolve : w.resolveAnnotation locals module v = .ok v := by
    cases v with
    | str s => exact (h.ne_str s rfl).elim
    | forward s m f => exact (h.ne_forward s m f rfl).elim
    | _ => rfl
  rw [World.annotationType, hresolve]

/-- The text of an expression stands for its value. -/
theorem annotationType_of_text {locals : List (String × Value)} {module : String} {e : Expr}
    (hw : Writes e.text e)
    (hu : w.evaluate (Surroundings.scope ⟨locals, w.namesOf module⟩) e = .ok u)
    (hf : w.Textless u) (ht : IsTextOf t e) :
    w.annotationType locals module t = (u, []) := by
  have htext : ∀ m f, w.resolveText textLimit ⟨locals, w.namesOf module⟩ [] ⟨e.text, m, f⟩ =
      .ok u := by
    intro m f
    rw [textLimit, resolveText_eq_resolveParts (readText_of_writes hw hu) hf.ne_str hf.ne_forward]
    exact hf.resolves _
  have hresolve : w.resolveAnnotation locals module t = .ok u := by
    rcases ht with rfl | ⟨m, f, rfl⟩
    · exact htext "" false
    · exact htext m f
  rw [World.annotationType, hresolve]

/-- Absent values and their class are described alike. -/
theorem describe_none (w : World) : w.describe .none = w.describe Value.noneType := by
  rw [describe, describe, unwrapFrom, unwrapFrom]
  rfl

theorem textless_noneType (w : World) : w.Textless Value.noneType :=
  ⟨fun _ => by rw [Value.noneType, resolveParts] <;> simp, nofun⟩

/-- What an annotation and its text have in common. -/
structure SameType (w : World) (x y : Value × List String) : Prop where
  describes : w.describe x.1 = w.describe y.1
  marks : marksField x.1 = marksField y.1
  notes : x.2 = y.2

theorem Awaits.sameType {locals : List (String × Value)} {module : String}
    (h : w.Awaits ⟨locals, w.namesOf module⟩ v t) :
    w.SameType (w.annotationType locals module v) (w.annotationType locals module t) := by
  cases h with
  | same => exact ⟨rfl, rfl, rfl⟩
  | text hw hu hf hv ht =>
    rw [annotationType_of_text hw hu hf ht]
    rcases hv with rfl | ⟨rfl, rfl⟩
    · rw [hf.annotationType]
      exact ⟨rfl, rfl, rfl⟩
    · rw [(textless_noneType w).annotationType]
      exact ⟨w.describe_none.symm, rfl, rfl⟩

/-- An annotation of a field, and its text: one that reads as a mark of another kind is one. -/
structure AwaitsField (w : World) (names : Surroundings) (a t : String × Value) : Prop where
  name : a.1 = t.1
  value : w.Awaits names a.2 t.2
  marks : marksField t.2 = false → marksField a.2 = false

/-- An attribute, and the same with the annotation of its getter as text. -/
inductive AwaitsAttribute (w : World) : Attribute → Attribute → Prop
  | same (a : Attribute) : w.AwaitsAttribute a a
  | property {module : String} {v t : Value} {b : Bool}
      (h : w.Awaits ⟨[], w.namesOf module⟩ v t) :
      w.AwaitsAttribute (.property (some ⟨some v, module⟩) b) (.property (some ⟨some t, module⟩) b)

/-- The second world has texts where the first one has the values of annotations. -/
structure Postpones (w w' : World) : Prop where
  outline : w.outline = w'.outline
  fields : ∀ c, List.Forall₂ (w.AwaitsField ⟨w.classNames c, w.namesOf (w.moduleOf c)⟩)
    (w.annotationsOf c) (w'.annotationsOf c)
  properties : ∀ c, List.Forall₂ (fun a t => a.1 = t.1 ∧ w.AwaitsAttribute a.2 t.2)
    (w.attributesOf c) (w'.attributesOf c)

/-! Lists that are related item by item. -/

section Lists

variable {α β : Type} {S : α → α → Prop} {xs ys : List α}

theorem filterMap_eq_of_forall₂ {f : α → Option β} (h : List.Forall₂ S xs ys)
    (hS : ∀ x y, S x y → f x = f y) : xs.filterMap f = ys.filterMap f := by
  induction h with
  | nil => rfl
  | @cons x y xs ys hxy _ ih => rw [List.filterMap_cons, List.filterMap_cons, hS x y hxy, ih]

theorem flatMap_eq_of_forall₂ {f : α → List β} (h : List.Forall₂ S xs ys)
    (hS : ∀ x y, S x y → f x = f y) : xs.flatMap f = ys.flatMap f := by
  induction h with
  | nil => rfl
  | @cons x y xs ys hxy _ ih => rw [List.flatMap_cons, List.flatMap_cons, hS x y hxy, ih]

end Lists

/-! What one annotation and one attribute add to the members of a class. -/

/-- The field that an annotation among names makes. -/
def fieldMember (w : World) (names : List (String × Value)) (module : String)
    (a : String × Value) : Option (String × Value) :=
  let t := w.annotationType names module a.2
  if !isHidden a.1 && marksField a.2 && marksField t.1 then some (a.1, w.describe t.1) else none

/-- What could not be resolved in the annotation of a field. -/
def fieldNotes (w : World) (names : List (String × Value)) (module : String)
    (a : String × Value) : List String :=
  if !isHidden a.1 && marksField a.2 then (w.annotationType names module a.2).2 else []

/-- The type of a property that can be read, unless it is hidden, and what could not be resolved. -/
def propertyType? (w : World) (a : String × Attribute) : Option ((String × Value) × List String) :=
  match a.2 with
  | .property (some g) _ =>
    if isHidden a.1 then none
    else
      let t := w.annotationType [] g.module (g.returns.getD Value.any)
      some ((a.1, t.1), t.2)
  | _ => none

theorem propertiesOf_eq (c : ClassRef) :
    w.propertiesOf c = (w.attributesOf c).filterMap w.propertyType? := rfl

theorem typeMembers_of_class {c : ClassRef} (hc : v.class? = some c) : w.typeMembers v =
    (w.annotationsOf c).filterMap (w.fieldMember (w.classNames c) (w.moduleOf c)) ++
      ((w.attributesOf c).filterMap w.propertyType?).map fun m => (m.1.1, w.describe m.1.2) := by
  rw [typeMembers, hc]
  dsimp only
  rw [List.map_append, propertiesOf_eq]
  congr 1
  unfold fieldsOf
  dsimp only
  induction w.annotationsOf c with
  | nil => rfl
  | cons a rest ih =>
    rw [List.filterMap_cons, List.filter_cons, fieldMember]
    cases hfield : (!isHidden a.1 && marksField a.2) with
    | false =>
      simp only [Bool.false_and, Bool.false_eq_true, if_false]
      exact ih
    | true =>
      simp only [Bool.true_and, if_true, List.map_cons, List.filter_cons]
      cases marksField (w.annotationType (w.classNames c) (w.moduleOf c) a.2).1 with
      | false =>
        simp only [Bool.false_eq_true, if_false]
        exact ih
      | true =>
        simp only [if_true, List.map_cons]
        exact congrArg _ ih

theorem memberNotesOf_of_class {c : ClassRef} (hc : v.class? = some c) : w.memberNotesOf v =
    (w.annotationsOf c).flatMap (w.fieldNotes (w.classNames c) (w.moduleOf c)) ++
      ((w.attributesOf c).filterMap w.propertyType?).flatMap (·.2) := by
  rw [memberNotesOf, hc]
  dsimp only
  rw [List.flatMap_append, propertiesOf_eq]
  congr 1
  unfold fieldsOf
  dsimp only
  induction w.annotationsOf c with
  | nil => rfl
  | cons a rest ih =>
    rw [List.flatMap_cons, List.filter_cons, fieldNotes]
    cases hfield : (!isHidden a.1 && marksField a.2) with
    | false =>
      simp only [Bool.false_eq_true, if_false]
      exact ih
    | true =>
      simp only [if_true, List.map_cons, List.flatMap_cons]
      exact congrArg _ ih

section Fields

variable {locals : List (String × Value)} {module : String} {a t : String × Value}

/-- An annotation with a text of its own stands for itself. -/
theorem Awaits.eq_or_annotationType (h : w.Awaits ⟨locals, w.namesOf module⟩ v u) :
    v = u ∨ w.annotationType locals module v = (v, []) := by
  cases h with
  | same => exact .inl rfl
  | text hw hu hf hv ht =>
    rcases hv with rfl | ⟨rfl, rfl⟩
    · exact .inr (hf.annotationType ..)
    · exact .inr ((textless_noneType w).annotationType ..)

theorem AwaitsField.fieldMember (h : w.AwaitsField ⟨locals, w.namesOf module⟩ a t) :
    w.fieldMember locals module a = w.fieldMember locals module t := by
  have hsame := h.value.sameType
  unfold World.fieldMember
  dsimp only
  rw [← h.name, ← hsame.marks, ← hsame.describes]
  rcases h.value.eq_or_annotationType with he | he
  · rw [he]
  · rw [he]
    cases ht : marksField t.2 with
    | false => simp [h.marks ht]
    | true => cases marksField a.2 <;> simp

theorem AwaitsField.fieldNotes (h : w.AwaitsField ⟨locals, w.namesOf module⟩ a t) :
    w.fieldNotes locals module a = w.fieldNotes locals module t := by
  have hsame := h.value.sameType
  unfold World.fieldNotes
  rw [← h.name, ← hsame.notes]
  rcases h.value.eq_or_annotationType with he | he
  · rw [he]
  · rw [he]
    split <;> split <;> rfl

end Fields

theorem AwaitsAttribute.propertyType {a t : String × Attribute} (hn : a.1 = t.1)
    (h : w.AwaitsAttribute a.2 t.2) :
    ((w.propertyType? a).map fun m => (m.1.1, w.describe m.1.2)) =
        ((w.propertyType? t).map fun m => (m.1.1, w.describe m.1.2)) ∧
      (w.propertyType? a).map (·.2) = (w.propertyType? t).map (·.2) := by
  obtain ⟨n, a⟩ := a
  obtain ⟨m, t⟩ := t
  cases hn
  cases h with
  | same => exact ⟨rfl, rfl⟩
  | property h =>
    have hsame := h.sameType
    unfold propertyType?
    cases isHidden n with
    | true => simp only [if_true, Option.map_none, and_self]
    | false =>
      exact ⟨congrArg (fun t => some (n, t)) hsame.describes, congrArg some hsame.notes⟩

section Universe

variable (h : w.Postpones w')

include h

theorem Postpones.annotationType : w.annotationType = w'.annotationType :=
  eq_of_outline outline_annotationType h.outline

theorem Postpones.propertyType : w.propertyType? = w'.propertyType? := by
  unfold propertyType?
  rw [h.annotationType]

theorem Postpones.classNames : w.classNames = w'.classNames :=
  eq_of_outline outline_classNames h.outline

theorem Postpones.moduleOf : w.moduleOf = w'.moduleOf := eq_of_outline outline_moduleOf h.outline

/-- Members have the same names and types, in the same order. -/
theorem Postpones.typeMembers : w.typeMembers = w'.typeMembers := by
  have hdescribe : w.describe = w'.describe := eq_of_outline outline_describe h.outline
  have hfield : w.fieldMember = w'.fieldMember := by
    unfold fieldMember
    rw [h.annotationType, hdescribe]
  funext v
  cases hc : v.class? with
  | none => rw [World.typeMembers, World.typeMembers, hc]
  | some c =>
    rw [typeMembers_of_class hc, typeMembers_of_class hc, ← hfield, ← h.propertyType, ← hdescribe,
      ← h.classNames, ← h.moduleOf]
    congr 1
    · exact filterMap_eq_of_forall₂ (h.fields c) fun _ _ ha => ha.fieldMember
    · rw [List.map_filterMap, List.map_filterMap]
      exact filterMap_eq_of_forall₂ (h.properties c) fun _ _ ha =>
        (AwaitsAttribute.propertyType ha.1 ha.2).1

theorem Postpones.memberNotesOf : w.memberNotesOf = w'.memberNotesOf := by
  have hfield : w.fieldNotes = w'.fieldNotes := by
    unfold fieldNotes
    rw [h.annotationType]
  funext v
  cases hc : v.class? with
  | none => rw [World.memberNotesOf, World.memberNotesOf, hc]
  | some c =>
    rw [memberNotesOf_of_class hc, memberNotesOf_of_class hc, ← hfield, ← h.propertyType,
      ← h.classNames, ← h.moduleOf]
    congr 1
    · exact flatMap_eq_of_forall₂ (h.fields c) fun _ _ ha => ha.fieldNotes
    · rw [List.flatMap_def, List.flatMap_def, List.map_filterMap, List.map_filterMap]
      exact congrArg List.flatten (filterMap_eq_of_forall₂ (h.properties c) fun _ _ ha =>
        (AwaitsAttribute.propertyType ha.1 ha.2).2)

/-- A world with texts for annotations is the same universe as the one with their values. -/
theorem Postpones.types : w.types = w'.types :=
  types_eq_of_outline_eq h.outline h.typeMembers h.memberNotesOf

end Universe

end TypeProjection.Annotation.World
