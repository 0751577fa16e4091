import TypeProjection.Annotation.Types

/-!
# The outline of a world

Annotations are read in two places only: where the fields of a class are listed, and where its
properties are. Every other question about a value has the same answer in the outline of a world,
whose classes and getters have lost their annotations, so worlds with one outline agree on all of
them.
-/

namespace TypeProjection.Annotation

/-- An attribute without what the getter of a property gives. -/
def Attribute.outline : Attribute → Attribute
  | .property (some g) b => .property (some { g with returns := none }) b
  | a => a

/-- A class without annotations. -/
def ClassInfo.outline (info : ClassInfo) : ClassInfo :=
  { info with
    annotations := []
    attributes := info.attributes.map fun a => (a.1, a.2.outline) }

namespace World

/-- A world whose classes have no annotations. -/
def outline (w : World) : World := { w with classes := w.classes.map ClassInfo.outline }

variable (w : World)

/-- What a class says, annotations apart. -/
theorem outline_map {α : Type} (i : Nat) (f : ClassInfo → α)
    (hf : ∀ info, f info.outline = f info) :
    w.outline.classes[i]?.map f = w.classes[i]?.map f := by
  change (w.classes.map ClassInfo.outline)[i]?.map f = _
  rw [Array.getElem?_map, Option.map_map]
  congr 1
  exact funext hf

/-! Classes and modules. -/

@[simp] theorem outline_moduleOf : w.outline.moduleOf = w.moduleOf := by
  funext c
  cases c with
  | library m n => rfl
  | declared i => simp only [moduleOf, outline_map w i ClassInfo.module fun _ => rfl]

@[simp] theorem outline_nameOf : w.outline.nameOf = w.nameOf := by
  funext c
  cases c with
  | library m n => rfl
  | declared i => simp only [nameOf, outline_map w i ClassInfo.name fun _ => rfl]

@[simp] theorem outline_pathOf : w.outline.pathOf = w.pathOf := by
  funext c
  cases c with
  | library m n => rfl
  | declared i => simp only [pathOf, outline_map w i ClassInfo.path fun _ => rfl]

@[simp] theorem outline_qualified : w.outline.qualified = w.qualified := by
  funext c
  simp only [qualified, outline_moduleOf, outline_pathOf]

@[simp] theorem outline_basesOf : w.outline.basesOf = w.basesOf := by
  funext c
  cases c with
  | library m n => rfl
  | declared i => simp only [basesOf, outline_map w i ClassInfo.bases fun _ => rfl]

@[simp] theorem outline_ancestorsOf : w.outline.ancestorsOf = w.ancestorsOf := by
  funext c
  cases c with
  | library m n => rfl
  | declared i => simp only [ancestorsOf, outline_map w i ClassInfo.ancestors fun _ => rfl]

@[simp] theorem outline_derives : w.outline.derives = w.derives := by
  funext c d
  simp only [derives, outline_ancestorsOf]

@[simp] theorem outline_metaclassOf : w.outline.metaclassOf = w.metaclassOf := by
  funext c
  cases c with
  | library m n => rfl
  | declared i => simp only [metaclassOf, outline_map w i ClassInfo.metaclass fun _ => rfl]

@[simp] theorem outline_isEnumeration : w.outline.isEnumeration = w.isEnumeration := by
  funext c
  simp only [isEnumeration, outline_derives]

@[simp] theorem outline_hasProtocolMark : w.outline.hasProtocolMark = w.hasProtocolMark := by
  funext c
  cases c with
  | library m n => rfl
  | declared i => simp only [hasProtocolMark, outline_map w i ClassInfo.isProtocol fun _ => rfl]

@[simp] theorem outline_isProtocol : w.outline.isProtocol = w.isProtocol := by
  funext c
  simp only [isProtocol, outline_hasProtocolMark]

@[simp] theorem outline_abstractsOf : w.outline.abstractsOf = w.abstractsOf := by
  funext c
  cases c with
  | library m n => rfl
  | declared i => simp only [abstractsOf, outline_map w i ClassInfo.abstracts fun _ => rfl]

@[simp] theorem outline_parametersOf : w.outline.parametersOf = w.parametersOf := by
  funext c
  cases c with
  | library m n => rfl
  | declared i => simp only [parametersOf, outline_map w i ClassInfo.parameters fun _ => rfl]

@[simp] theorem outline_subscriptionOf : w.outline.subscriptionOf = w.subscriptionOf := by
  funext c
  simp only [subscriptionOf, outline_ancestorsOf]
  congr 1
  funext d
  cases d with
  | library m n => rfl
  | declared i =>
    change (w.classes.map ClassInfo.outline)[i]?.bind ClassInfo.subscription = _
    rw [Array.getElem?_map, Option.bind_map]
    rfl

@[simp] theorem outline_membersOf : w.outline.membersOf = w.membersOf := by
  funext c
  unfold membersOf
  split
  · rfl
  · congr 1
    cases c with
    | library m n => rfl
    | declared i => exact outline_map w i ClassInfo.members fun _ => rfl

@[simp] theorem outline_writtenBasesOf : w.outline.writtenBasesOf = w.writtenBasesOf := by
  funext c
  unfold writtenBasesOf
  split
  · rfl
  · rfl
  · rw [outline_basesOf]
  · rw [outline_map w _ ClassInfo.writtenBases fun _ => rfl]

@[simp] theorem outline_typeVars : w.outline.typeVars = w.typeVars := rfl

@[simp] theorem outline_paramSpecs : w.outline.paramSpecs = w.paramSpecs := rfl

@[simp] theorem outline_newTypes : w.outline.newTypes = w.newTypes := rfl

@[simp] theorem outline_loaded? : w.outline.loaded? = w.loaded? := rfl

@[simp] theorem outline_namesOf : w.outline.namesOf = w.namesOf := rfl

@[simp] theorem outline_attributeValue : w.outline.attributeValue = w.attributeValue := by
  funext c name a
  cases a with
  | value v => rfl
  | property g b => rfl
  | method b => simp only [attributeValue, outline_moduleOf, outline_pathOf]

/-- An attribute is the same value without its annotation. -/
theorem attributeValue_outline (c : ClassRef) (name : String) (a : Attribute) :
    w.attributeValue c name a.outline = w.attributeValue c name a := by
  cases a with
  | property g b => cases g <;> rfl
  | _ => rfl

/-- What stands under the names of a class, annotations apart. -/
theorem outline_attributesOf (c : ClassRef) :
    (w.outline.attributesOf c).map (fun a => (a.1, a.2.outline)) =
      (w.attributesOf c).map fun a => (a.1, a.2.outline) := by
  cases c with
  | library m n => rfl
  | declared i =>
    simp only [attributesOf, outline, Array.getElem?_map]
    cases w.classes[i]? with
    | none => rfl
    | some info =>
      change (info.attributes.map _).map _ = info.attributes.map _
      rw [List.map_map]
      refine List.map_congr_left fun a _ => ?_
      obtain ⟨n, a⟩ := a
      cases a with
      | property g b => cases g <;> rfl
      | _ => rfl

@[simp] theorem outline_classNames : w.outline.classNames = w.classNames := by
  funext c
  have hvalues : ∀ w' : World, w'.classNames c =
      ((w'.attributesOf c).map fun a => (a.1, a.2.outline)).map fun a =>
        (a.1, w'.attributeValue c a.1 a.2) := by
    intro w'
    rw [classNames, List.map_map]
    exact List.map_congr_left fun a _ =>
      congrArg (Prod.mk a.1) (w'.attributeValue_outline c a.1 a.2).symm
  rw [hvalues, hvalues w, outline_attributesOf, outline_attributeValue]

/-! How values are written. -/

@[simp] theorem outline_displayClass : w.outline.displayClass = w.displayClass := by
  funext c
  simp only [displayClass, outline_metaclassOf, outline_derives, outline_nameOf, outline_qualified]

@[simp] theorem outline_displayVariable : w.outline.displayVariable = w.displayVariable := rfl

@[simp] theorem outline_display : w.outline.display = w.display := by
  funext slot v
  revert slot v
  apply display.induct w
    (fun slot vs => display.displays w.outline slot vs = display.displays w slot vs)
    (fun slot v => w.outline.display slot v = w.display slot v)
  all_goals
    intros
    first
      | simp only [display.displays, *]
      | unfold display
        simp only [outline_displayClass, outline_qualified, outline_nameOf, outline_membersOf,
          outline_displayVariable, outline_loaded?, outline_newTypes, outline_paramSpecs, if_true,
          *]

@[simp] theorem outline_shown : w.outline.shown = w.shown := by
  funext v
  simp only [shown, outline_display]

@[simp] theorem outline_className : Value.className w.outline = Value.className w := by
  funext v
  unfold Value.className
  simp only [outline_metaclassOf, outline_nameOf]

/-! Types made of types. -/

@[simp] theorem outline_checkType : w.outline.checkType = w.checkType := by
  funext use v
  simp only [checkType, outline_shown]

@[simp] theorem outline_checkedUnion : w.outline.checkedUnion = w.checkedUnion := by
  funext vs
  simp only [checkedUnion, outline_checkType]

@[simp] theorem outline_pipe : w.outline.pipe = w.pipe := by
  funext l r
  unfold pipe
  simp only [outline_checkedUnion, outline_className]

@[simp] theorem outline_pipeAll : w.outline.pipeAll = w.pipeAll := by
  funext vs
  cases vs with
  | nil => rfl
  | cons v vs => simp only [pipeAll, outline_pipe]

@[simp] theorem outline_argumentFor : w.outline.argumentFor = w.argumentFor := by
  funext v a
  unfold argumentFor
  simp only [outline_checkType, outline_shown]

@[simp] theorem outline_annotate : w.outline.annotate = w.annotate := by
  funext v notes
  unfold annotate
  simp only [outline_className]

@[simp] theorem outline_substitute : w.outline.substitute = w.substitute := by
  funext chosen v
  revert v
  apply substitute.induct chosen
    (fun vs => substitute.substituteAll w.outline chosen vs = substitute.substituteAll w chosen vs)
    (fun v => w.outline.substitute chosen v = w.substitute chosen v)
  all_goals
    intros
    first
      | simp only [substitute.substituteAll, *]
      | unfold substitute
        simp only [outline_argumentFor, outline_checkedUnion, outline_pipeAll, outline_annotate, *]

@[simp] theorem outline_applyVariables : w.outline.applyVariables = w.applyVariables := by
  funext v arguments
  unfold applyVariables
  simp only [outline_shown, outline_substitute]

@[simp] theorem outline_applyGeneric : w.outline.applyGeneric = w.applyGeneric := by
  funext c index
  unfold applyGeneric
  simp only [outline_nameOf, outline_displayClass, outline_parametersOf]

@[simp] theorem outline_applyNativeCallable :
    w.outline.applyNativeCallable = w.applyNativeCallable := by
  funext index
  unfold applyNativeCallable
  simp only [outline_shown]

@[simp] theorem outline_subscriptName : w.outline.subscriptName = w.subscriptName := by
  funext c
  cases c with
  | library m n => rfl
  | declared i => simp only [subscriptName, outline_nameOf]

@[simp] theorem outline_applyAnnotated : w.outline.applyAnnotated = w.applyAnnotated := by
  funext items
  unfold applyAnnotated
  simp only [outline_checkType, outline_annotate]

@[simp] theorem outline_applyClass : w.outline.applyClass = w.applyClass := by
  funext c index
  unfold applyClass
  simp only [outline_metaclassOf, outline_membersOf, outline_shown, outline_displayClass,
    outline_subscriptionOf, outline_applyGeneric, outline_applyAnnotated,
    outline_applyNativeCallable, outline_subscriptName]

@[simp] theorem outline_applyConcatenate : w.outline.applyConcatenate = w.applyConcatenate := by
  funext items
  unfold applyConcatenate
  simp only [outline_checkType]

@[simp] theorem outline_applyForm : w.outline.applyForm = w.applyForm := by
  funext name index
  unfold applyForm
  simp only [outline_checkedUnion, outline_checkType, outline_applyConcatenate]

@[simp] theorem outline_applyAlias : w.outline.applyAlias = w.applyAlias := by
  funext name index
  unfold applyAlias
  simp only [outline_checkType]

@[simp] theorem outline_subscript : w.outline.subscript = w.subscript := by
  funext target index
  unfold subscript
  simp only [outline_applyClass, outline_applyForm, outline_applyAlias, outline_applyVariables,
    outline_shown, outline_className]

/-! Expressions. -/

theorem lookup_map_snd {α β : Type} (f : α → β) (name : String)
    (entries : List (String × α)) :
    (entries.map fun a => (a.1, f a.2)).lookup name = (entries.lookup name).map f := by
  induction entries with
  | nil => rfl
  | cons e entries ih =>
    rw [List.map_cons, List.lookup_cons, List.lookup_cons, ih]
    cases name == e.1 <;> rfl

/-- What stands under a name in a class or in an ancestor of it, annotations apart. -/
theorem outline_classAttribute? (c : ClassRef) (name : String) :
    (w.outline.classAttribute? c name).map (fun a => (a.1, a.2.outline)) =
      (w.classAttribute? c name).map fun a => (a.1, a.2.outline) := by
  have hfind : ∀ w' : World, (w'.classAttribute? c name).map (fun a => (a.1, a.2.outline)) =
      (w'.ancestorsOf c).findSome? fun d =>
        (((w'.attributesOf d).map fun a => (a.1, a.2.outline)).lookup name).map
          fun a => (d, a) := by
    intro w'
    rw [classAttribute?, List.map_findSome?]
    congr 1
    funext d
    rw [lookup_map_snd, Function.comp_apply, Option.map_map, Option.map_map]
    rfl
  rw [hfind, hfind w, outline_ancestorsOf]
  simp only [outline_attributesOf]

@[simp] theorem outline_ofClass : w.outline.ofClass = w.ofClass := by
  funext c name
  have hvalue : (w.outline.classAttribute? c name).map
      (fun a => w.attributeValue a.1 name a.2) =
        (w.classAttribute? c name).map fun a => w.attributeValue a.1 name a.2 := by
    have h := congrArg (Option.map fun a => w.attributeValue a.1 name a.2)
      (w.outline_classAttribute? c name)
    simpa only [Option.map_map, Function.comp_def, attributeValue_outline] using h
  unfold ofClass
  simp only [outline_membersOf, outline_attributeValue, outline_nameOf, outline_pathOf,
    outline_moduleOf]
  cases hw : w.classAttribute? c name with
  | none => rw [hw, Option.map_none, Option.map_eq_none_iff] at hvalue; rw [hvalue]
  | some a =>
    rw [hw, Option.map_some, Option.map_eq_some_iff] at hvalue
    obtain ⟨a', ha', hvalue⟩ := hvalue
    rw [ha']
    simp only [hvalue]

@[simp] theorem outline_moduleName? : w.outline.moduleName? = w.moduleName? := rfl

@[simp] theorem outline_attributeOf : w.outline.attributeOf = w.attributeOf := by
  funext v name
  unfold attributeOf
  simp only [outline_moduleName?, outline_ofClass, outline_membersOf, outline_paramSpecs,
    outline_className]

@[simp] theorem outline_classOf : w.outline.classOf = w.classOf := by
  funext v
  unfold classOf
  simp only [outline_metaclassOf, outline_className]

@[simp] theorem outline_call : w.outline.call = w.call := by
  funext callee arguments
  unfold call
  simp only [outline_classOf, outline_shown, outline_qualified, outline_className]

@[simp] theorem outline_evaluate : w.outline.evaluate = w.evaluate := by
  funext scope e
  revert e
  apply evaluate.induct
    (fun es => evaluate.evaluateAll w.outline scope es = evaluate.evaluateAll w scope es)
    (fun e => w.outline.evaluate scope e = w.evaluate scope e)
    (fun es => evaluate.evaluateNamed w.outline scope es = evaluate.evaluateNamed w scope es)
    (fun es => evaluate.evaluateEntries w.outline scope es = evaluate.evaluateEntries w scope es)
  all_goals
    intros
    first
      | simp only [evaluate.evaluateAll, evaluate.evaluateNamed, evaluate.evaluateEntries, *]
      | unfold evaluate
        simp only [outline_attributeOf, outline_subscript, outline_pipe, outline_call,
          outline_className, *]

/-! Texts. -/

@[simp] theorem outline_resolveParts : w.outline.resolveParts = w.resolveParts := by
  funext R v
  revert v
  apply resolveParts.induct
    (fun vs => resolveParts.resolveAll w.outline R vs = resolveParts.resolveAll w R vs)
    (fun v => w.outline.resolveParts R v = w.resolveParts R v)
    (fun vs => resolveParts.resolveNative w.outline R vs = resolveParts.resolveNative w R vs)
  all_goals
    intros
    first
      | simp only [resolveParts.resolveAll, resolveParts.resolveNative, *]
      | unfold resolveParts
        simp only [outline_pipeAll, outline_checkedUnion, outline_annotate, *]

@[simp] theorem outline_inModule (names : Surroundings) (module : String) :
    names.inModule w.outline module = names.inModule w module := rfl

@[simp] theorem outline_resolvePending : w.outline.resolvePending = w.resolvePending := by
  funext fuel
  induction fuel with
  | zero => rfl
  | succ fuel ih =>
    funext names seen p
    simp only [resolvePending, outline_inModule, outline_evaluate, outline_checkType,
      outline_resolveParts, ih]

@[simp] theorem outline_readText : w.outline.readText = w.readText := by
  funext names text
  unfold readText
  simp only [outline_evaluate]

@[simp] theorem outline_resolveText : w.outline.resolveText = w.resolveText := by
  funext fuel
  induction fuel with
  | zero => rfl
  | succ fuel ih =>
    funext names seen p
    simp only [resolveText, outline_inModule, outline_readText, outline_resolveParts,
      outline_resolvePending, ih]

@[simp] theorem outline_resolveAnnotation : w.outline.resolveAnnotation = w.resolveAnnotation := by
  funext locals module v
  unfold resolveAnnotation
  simp only [outline_namesOf, outline_resolveText]

@[simp] theorem outline_annotationType : w.outline.annotationType = w.annotationType := by
  funext locals module v
  simp only [annotationType, outline_resolveAnnotation]

/-! The universe of types. -/

@[simp] theorem outline_unwrapFrom : w.outline.unwrapFrom = w.unwrapFrom := by
  funext fuel
  induction fuel with
  | zero => rfl
  | succ fuel ih =>
    funext v
    simp only [unwrapFrom, outline_newTypes, ih]

@[simp] theorem outline_describe : w.outline.describe = w.describe := by
  funext v
  simp only [describe, outline_unwrapFrom, outline_newTypes]

@[simp] theorem outline_displayName : w.outline.displayName = w.displayName := by
  funext v
  unfold displayName
  simp only [outline_shown, outline_qualified]

@[simp] theorem outline_shortName : w.outline.shortName = w.shortName := by
  funext v
  unfold shortName
  simp only [outline_typeVars, outline_paramSpecs, outline_nameOf, outline_displayName]

@[simp] theorem outline_isEnumType : w.outline.isEnumType = w.isEnumType := by
  funext v
  simp only [isEnumType, outline_isEnumeration]

@[simp] theorem outline_isInterfaceType : w.outline.isInterfaceType = w.isInterfaceType := by
  funext v
  simp only [isInterfaceType, outline_isProtocol]

@[simp] theorem outline_isStructuralType : w.outline.isStructuralType = w.isStructuralType := by
  funext v
  simp only [isStructuralType, outline_isEnumeration, outline_moduleOf]

@[simp] theorem outline_declaredParameters :
    w.outline.declaredParameters = w.declaredParameters := by
  funext v
  unfold declaredParameters
  simp only [outline_parametersOf]

@[simp] theorem outline_parameter? : w.outline.parameter? = w.parameter? := rfl

@[simp] theorem outline_boundOf : w.outline.boundOf = w.boundOf := by
  funext v
  simp only [boundOf, outline_parameter?, outline_annotationType, outline_describe]

@[simp] theorem outline_alternativesOf : w.outline.alternativesOf = w.alternativesOf := by
  funext v
  simp only [alternativesOf, outline_parameter?, outline_annotationType, outline_describe]

@[simp] theorem outline_supertypesOf : w.outline.supertypesOf = w.supertypesOf := by
  funext v
  simp only [supertypesOf, outline_writtenBasesOf, outline_describe]

@[simp] theorem outline_baseOf : w.outline.baseOf = w.baseOf := by
  funext v
  simp only [baseOf, outline_isInterfaceType, outline_supertypesOf]

@[simp] theorem outline_interfacesOf : w.outline.interfacesOf = w.interfacesOf := by
  funext v
  simp only [interfacesOf, outline_baseOf, outline_supertypesOf]

@[simp] theorem outline_elementOf : w.outline.elementOf = w.elementOf := by
  funext v
  simp only [elementOf, outline_describe]

@[simp] theorem outline_keyValueOf : w.outline.keyValueOf = w.keyValueOf := by
  funext v
  simp only [keyValueOf, outline_describe]

@[simp] theorem outline_tupleOf : w.outline.tupleOf = w.tupleOf := by
  funext v
  simp only [tupleOf, outline_describe]

@[simp] theorem outline_alternativesOfUnion :
    w.outline.alternativesOfUnion = w.alternativesOfUnion := by
  funext v
  unfold alternativesOfUnion
  simp only [outline_describe]

theorem outline_size : w.outline.classes.size = w.classes.size := Array.size_map

theorem outline_extent (n : Nat) :
    w.outline.classes.foldl (fun n c => n + c.writtenBases.length) n =
      w.classes.foldl (fun n c => n + c.writtenBases.length) n := by
  change (w.classes.map ClassInfo.outline).foldl _ _ = _
  rw [Array.foldl_map]
  rfl

/-- A universe owes nothing but the members of its types to annotations. -/
theorem types_eq_outline : w.types =
    { w.outline.types with members := w.typeMembers, memberNotes := w.memberNotesOf } := by
  simp only [types, outline_extent]
  simp only [outline_displayName, outline_shortName, outline_isEnumType, outline_isInterfaceType,
    outline_abstractsOf, outline_isStructuralType, outline_parameter?, outline_declaredParameters,
    outline_describe, outline_boundOf, outline_alternativesOf, outline_baseOf,
    outline_interfacesOf, outline_membersOf, outline_elementOf, outline_keyValueOf,
    outline_tupleOf, outline_alternativesOfUnion]

/-- Worlds with one outline agree on whatever depends on outlines alone. -/
theorem eq_of_outline {γ : Type} {f : World → γ} (hf : ∀ w, f w.outline = f w) {w w' : World}
    (h : w.outline = w'.outline) : f w = f w' := by
  rw [← hf w, h, hf]

/-- Worlds with one outline are the same universe, if the members of their types are the same. -/
theorem types_eq_of_outline_eq {w w' : World} (h : w.outline = w'.outline)
    (hmembers : w.typeMembers = w'.typeMembers) (hnotes : w.memberNotesOf = w'.memberNotesOf) :
    w.types = w'.types := by
  rw [types_eq_outline w, types_eq_outline w', h, hmembers, hnotes]

end World

end TypeProjection.Annotation
