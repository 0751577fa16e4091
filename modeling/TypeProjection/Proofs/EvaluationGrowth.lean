import TypeProjection.Proofs.GrownWorlds

/-!
# Evaluating in a grown world

What an expression gives is not lost when the world grows: the same expression gives the same value
later, if the names in it mean the same. Types made of types do not depend on the world at all; a
world has a say only in classes, in the names of modules and in how values are written.
-/

namespace TypeProjection.Annotation

/-- The second computation gives whatever the first one gives. -/
def Echoes {α : Type} (x x' : Except Fault α) : Prop := ∀ a, x = .ok a → x' = .ok a

section Echoes

variable {α β : Type} {x x' : Except Fault α}

theorem Echoes.refl (x : Except Fault α) : Echoes x x := fun _ h => h

theorem echoes_error {f : Fault} : Echoes (.error f) x' := fun _ h => nomatch h

theorem Echoes.bind {f f' : α → Except Fault β} (h : Echoes x x')
    (hf : ∀ a, x = .ok a → Echoes (f a) (f' a)) : Echoes (x >>= f) (x' >>= f') := by
  cases x with
  | error e => exact echoes_error
  | ok a =>
    rw [h a rfl]
    exact hf a rfl

/-- The same is made of what both give. -/
theorem Echoes.map {f : α → Except Fault β} (h : Echoes x x') : Echoes (x >>= f) (x' >>= f) :=
  h.bind fun _ _ => .refl _

theorem echoes_mapM {f f' : α → Except Fault β} {xs : List α}
    (h : ∀ x ∈ xs, Echoes (f x) (f' x)) : Echoes (xs.mapM f) (xs.mapM f') := by
  induction xs with
  | nil => exact .refl _
  | cons x xs ih =>
    obtain ⟨hx, hxs⟩ := List.forall_mem_cons.mp h
    rw [List.mapM_cons, List.mapM_cons]
    exact hx.bind fun _ _ => (ih hxs).map

theorem echoes_foldlM {f f' : β → α → Except Fault β} {xs : List α}
    (h : ∀ b, ∀ x ∈ xs, Echoes (f b x) (f' b x)) {b : β} :
    Echoes (xs.foldlM f b) (xs.foldlM f' b) := by
  induction xs generalizing b with
  | nil => exact .refl _
  | cons x xs ih =>
    rw [List.foldlM_cons, List.foldlM_cons]
    refine (h b x (List.mem_cons_self ..)).bind fun c _ => ?_
    exact ih fun b y hy => h b y (List.mem_cons_of_mem _ hy)

theorem echoes_ite {c : Prop} [Decidable c] {y y' : Except Fault α} (hx : c → Echoes x x')
    (hy : ¬ c → Echoes y y') : Echoes (if c then x else y) (if c then x' else y') := by
  split
  · exact hx ‹_›
  · exact hy ‹_›

end Echoes

namespace Expr

/-- The words of an expression, by what a name and an attribute count for. -/
def wordsOf (words : Bool → String → List String) : Expr → List String
  | .name n => words false n
  | .attribute of n => words true n ++ wordsOf words of
  | .subscript of index => wordsOf words of ++ wordsOf words index
  | .tuple items | .list items | .set items => all words items
  | .dict es => entries words es
  | .either left right => wordsOf words left ++ wordsOf words right
  | .call callee arguments es => wordsOf words callee ++ (all words arguments ++ named words es)
  | .operation _ operands => all words operands
  | _ => []
where
  all (words : Bool → String → List String) : List Expr → List String
    | [] => []
    | e :: rest => wordsOf words e ++ all words rest
  entries (words : Bool → String → List String) : List (Expr × Expr) → List String
    | [] => []
    | (k, v) :: rest => wordsOf words k ++ (wordsOf words v ++ entries words rest)
  named (words : Bool → String → List String) : List (String × Expr) → List String
    | [] => []
    | (_, e) :: rest => wordsOf words e ++ named words rest

/-- A word counts if it is a name. -/
def ofName (isAttribute : Bool) (word : String) : List String := if isAttribute then [] else [word]

/-- A word counts if it is an attribute. -/
def ofAttribute (isAttribute : Bool) (word : String) : List String :=
  if isAttribute then [word] else []

/-- The names in an expression. -/
def names (e : Expr) : List String := e.wordsOf ofName

/-- The attributes in an expression. -/
def attributes (e : Expr) : List String := e.wordsOf ofAttribute

end Expr

namespace World

/-! Types made of types. -/

section Types

variable (w w' : World)

theorem echoes_checkType (use : TypeUse) (v : Value) :
    Echoes (w.checkType use v) (w'.checkType use v) :=
  fun _ h => checkType_eq_ok.mpr (checkType_eq_ok.mp h)

theorem echoes_checkedUnion (vs : List Value) : Echoes (w.checkedUnion vs) (w'.checkedUnion vs) :=
  (echoes_mapM fun _ _ => echoes_checkType w w' _ _).map

theorem echoes_pipe (l r : Value) : Echoes (w.pipe l r) (w'.pipe l r) := by
  unfold pipe
  split
  · exact .refl _
  · exact .refl _
  · exact .refl _
  · extract_lets bothNone
    exact echoes_ite (fun _ => .refl _) fun _ =>
      echoes_ite (fun _ => echoes_checkedUnion w w' _) fun _ => echoes_error

theorem echoes_pipeAll (vs : List Value) : Echoes (w.pipeAll vs) (w'.pipeAll vs) := by
  cases vs with
  | nil => exact .refl _
  | cons v vs => exact echoes_foldlM fun _ _ _ => echoes_pipe w w' _ _

theorem echoes_argumentFor (v a : Value) : Echoes (w.argumentFor v a) (w'.argumentFor v a) := by
  unfold argumentFor
  split
  · split
    · exact (echoes_mapM fun _ _ => echoes_checkType w w' _ _).map
    · exact (echoes_mapM fun _ _ => echoes_checkType w w' _ _).map
    · exact echoes_ite (fun _ => .refl _) fun _ => echoes_error
  · exact echoes_checkType w w' _ _

theorem echoes_annotate (v : Value) (notes : List Value) :
    Echoes (w.annotate v notes) (w'.annotate v notes) := by
  unfold annotate
  split
  · exact .refl _
  · exact echoes_ite (fun _ => .refl _) fun _ => echoes_error

theorem echoes_substitute (chosen : List (Value × Value)) (v : Value) :
    Echoes (w.substitute chosen v) (w'.substitute chosen v) := by
  revert v
  apply substitute.induct chosen
    (fun vs => Echoes (substitute.substituteAll w chosen vs) (substitute.substituteAll w' chosen vs))
    (fun v => Echoes (w.substitute chosen v) (w'.substitute chosen v))
  -- The variables.
  case case1 | case3 =>
    intro i e he
    unfold substitute
    simp only [he]
    exact echoes_argumentFor w w' _ _
  case case2 | case4 =>
    intro i he
    unfold substitute
    simp only [he]
    exact .refl _
  case case10 =>
    intro name arguments hname ih
    rw [substitute, substitute]
    · exact ih.map
    · exact hname
    · exact hname
  case case11 =>
    intro members ih
    rw [substitute, substitute]
    exact ih.bind fun _ _ => echoes_checkedUnion w w' _
  case case12 =>
    intro members ih
    rw [substitute, substitute]
    exact ih.bind fun _ _ => echoes_pipeAll w w' _
  case case13 =>
    intro inner notes ih
    rw [substitute, substitute]
    exact ih.bind fun _ _ => echoes_annotate w w' _ _
  case case16 =>
    intro v vs hv hvs
    rw [substitute.substituteAll, substitute.substituteAll]
    exact hv.bind fun _ _ => hvs.map
  -- What is left keeps its kind, or has nothing inside.
  case case5 | case6 | case7 | case8 =>
    intros
    rename_i ih
    unfold substitute
    exact ih.map
  case case9 =>
    intro arguments
    rw [substitute, substitute]
    exact .refl _
  case case14 =>
    intros
    rw [substitute, substitute] <;> first | exact .refl _ | assumption
  case case15 => exact .refl _

end Types

section Arguments

variable (w w' : World)

/-- How a target is called matters to what is said of wrong arguments only. -/
theorem echoes_prepare (target target' : String) (params arguments : List Value) :
    Echoes (prepare target params arguments) (prepare target' params arguments) := by
  refine echoes_foldlM fun arguments v _ => ?_
  unfold prepareFor
  split
  · split
    · exact .refl _
    · split
      · exact echoes_error
      · exact .refl _
  · exact .refl _

theorem echoes_applyVariables (v : Value) (arguments : List Value) :
    Echoes (w.applyVariables v arguments) (w'.applyVariables v arguments) := by
  unfold applyVariables
  extract_lets target params target'
  refine echoes_ite (fun _ => echoes_error) fun _ => ?_
  refine (Echoes.refl _).bind fun _ _ => (echoes_prepare _ _ _ _).bind fun _ _ => ?_
  exact echoes_ite (fun _ => echoes_error) fun _ => echoes_substitute w w' _ _

theorem echoes_applyNativeCallable (index : Value) :
    Echoes (w.applyNativeCallable index) (w'.applyNativeCallable index) := by
  unfold applyNativeCallable
  split
  · exact .refl _
  · exact .refl _
  · exact echoes_ite (fun _ => .refl _) fun _ => echoes_error
  · exact echoes_error

theorem echoes_applyAnnotated (items : List Value) :
    Echoes (w.applyAnnotated items) (w'.applyAnnotated items) := by
  unfold applyAnnotated
  split
  · exact (echoes_checkType w w' _ _).bind fun _ _ => echoes_annotate w w' _ _
  · exact echoes_error

theorem echoes_applyConcatenate (items : List Value) :
    Echoes (w.applyConcatenate items) (w'.applyConcatenate items) := by
  unfold applyConcatenate
  split
  · exact echoes_error
  · extract_lets fits
    exact echoes_ite (fun _ => (echoes_mapM fun _ _ => echoes_checkType w w' _ _).map)
      fun _ => echoes_error

theorem echoes_applyForm (name : String) (index : Value) :
    Echoes (w.applyForm name index) (w'.applyForm name index) := by
  unfold applyForm
  extract_lets shown
  split
  · split
    · exact echoes_error
    · exact echoes_checkedUnion w w' _
  · exact (echoes_checkType w w' _ _).bind fun _ _ => echoes_checkedUnion w w' _
  · exact (echoes_checkType w w' _ _).map
  · exact (echoes_checkType w w' _ _).map
  · exact (echoes_checkType w w' _ _).map
  · exact (echoes_checkType w w' _ _).map
  · exact (echoes_checkType w w' _ _).map
  · exact (echoes_checkType w w' _ _).map
  · exact .refl _
  · exact echoes_applyConcatenate w w' _
  · exact echoes_error

theorem echoes_applyAlias (name : String) (index : Value) :
    Echoes (w.applyAlias name index) (w'.applyAlias name index) := by
  unfold applyAlias
  extract_lets origin
  split
  · split
    · exact (echoes_checkType w w' _ _).map
    · exact echoes_error
  · exact echoes_ite (fun _ => (echoes_mapM fun _ _ => echoes_checkType w w' _ _).map)
      fun _ => (echoes_mapM fun _ _ => echoes_checkType w w' _ _).map
  · exact (echoes_mapM fun _ _ => echoes_checkType w w' _ _).map

end Arguments

/-! Classes, and how values are written. -/

variable {w w' : World} {counts : String → Prop} {c : ClassRef} {v : Value}

/-- The second world has grown from the first one, and modules have kept their files and the names
that count. -/
structure Continues (counts : String → Prop) (w w' : World) : Prop extends w.Grown w' where
  names : ∀ {module name v}, counts name → w.moduleName? module name = some v →
    w'.moduleName? module name = some v
  files : ∀ module, (w'.loaded? module).bind LoadedModule.file =
    (w.loaded? module).bind LoadedModule.file

section Classes

variable (h : w.Grown w')

include h

theorem Grown.moduleOf (hc : w.Valid c) : w'.moduleOf c = w.moduleOf c := by
  cases c with
  | library m n => rfl
  | declared i => rw [World.moduleOf, World.moduleOf, h.info hc]

theorem Grown.nameOf (hc : w.Valid c) : w'.nameOf c = w.nameOf c := by
  cases c with
  | library m n => rfl
  | declared i => rw [World.nameOf, World.nameOf, h.info hc]

theorem Grown.pathOf (hc : w.Valid c) : w'.pathOf c = w.pathOf c := by
  cases c with
  | library m n => rfl
  | declared i => rw [World.pathOf, World.pathOf, h.info hc]

theorem Grown.qualified (hc : w.Valid c) : w'.qualified c = w.qualified c := by
  unfold World.qualified
  rw [h.moduleOf hc, h.pathOf hc]

theorem Grown.metaclassOf (hc : w.Valid c) : w'.metaclassOf c = w.metaclassOf c := by
  cases c with
  | library m n => rfl
  | declared i => rw [World.metaclassOf, World.metaclassOf, h.info hc]

theorem Grown.info? (hc : w.Valid c) : w'.info? c = w.info? c := by
  cases c with
  | library m n => rfl
  | declared i => exact h.info hc

theorem Grown.membersOf (hc : w.Valid c) : w'.membersOf c = w.membersOf c := by
  unfold World.membersOf
  rw [h.info? hc]

theorem Grown.attributesOf (hc : w.Valid c) : w'.attributesOf c = w.attributesOf c := by
  cases c with
  | library m n => rfl
  | declared i => rw [World.attributesOf, World.attributesOf, h.info hc]

theorem Grown.attributeValue (hc : w.Valid c) (name : String) (a : Attribute) :
    w'.attributeValue c name a = w.attributeValue c name a := by
  cases a with
  | method b => rw [World.attributeValue, World.attributeValue, h.moduleOf hc, h.pathOf hc]
  | _ => rfl

theorem Grown.classNames (hc : w.Valid c) : w'.classNames c = w.classNames c := by
  unfold World.classNames
  rw [h.attributesOf hc]
  exact List.map_congr_left fun a _ => congrArg (Prod.mk a.1) (h.attributeValue hc a.1 a.2)

theorem Grown.displayClass (hc : w.Valid c) : w'.displayClass c = w.displayClass c := by
  unfold World.displayClass World.derives
  rw [h.metaclassOf hc, h.ancestorsOf hc, h.nameOf hc, h.qualified hc]

theorem Grown.displayVariable {i : Nat} (hi : i < w.typeVars.size) :
    w'.displayVariable i = w.displayVariable i := by
  obtain ⟨v', hv', he⟩ := h.typeVars (Array.getElem?_eq_getElem hi)
  have hname : v'.outline.name = w.typeVars[i].outline.name := by rw [he]
  have hvariance : v'.outline.variance = w.typeVars[i].outline.variance := by rw [he]
  change v'.name = w.typeVars[i].name at hname
  change v'.variance = w.typeVars[i].variance at hvariance
  unfold World.displayVariable
  rw [hv', Array.getElem?_eq_getElem hi]
  simp only [hname, hvariance]

end Classes

theorem displays_eq {slot : Slot} {xs : List Value}
    (h : ∀ x ∈ xs, ∀ slot, w'.display slot x = w.display slot x) :
    display.displays w' slot xs = display.displays w slot xs := by
  induction xs with
  | nil => rfl
  | cons x xs ih =>
    obtain ⟨hx, hxs⟩ := List.forall_mem_cons.mp h
    rw [display.displays, display.displays, hx, ih hxs]

/-- A sound value is written as before. -/
theorem Continues.display (h : w.Continues counts w') (hv : w.Sound v) (slot : Slot) :
    w'.display slot v = w.display slot v := by
  induction hv generalizing slot with
  | @intro v hv hchildren ih =>
    have hparts : ∀ (xs : List Value) (slot : Slot), (∀ x ∈ xs, x ∈ v.children) →
        display.displays w' slot xs = display.displays w slot xs :=
      fun _ _ hxs => displays_eq fun x hx slot => ih x (hxs x hx) slot
    cases v with
    | cls c =>
      have hc : w.Valid c := hv
      unfold World.display
      simp only [h.displayClass hc, h.qualified hc]
    | typeVar i =>
      have hi : i < w.typeVars.size := hv
      unfold World.display
      exact h.displayVariable hi
    | paramSpec i =>
      have hi : w.paramSpecs[i]? = some w.paramSpecs[i] := Array.getElem?_eq_getElem hv
      unfold World.display
      rw [h.paramSpecs hi, hi]
    | newType i =>
      have hi : w.newTypes[i]? = some w.newTypes[i] := Array.getElem?_eq_getElem hv
      unfold World.display
      rw [h.newTypes hi, hi]
    | list xs | tuple xs | set xs =>
      unfold World.display
      simp only [hparts xs _ fun _ hx => hx]
    | formed n xs =>
      unfold World.display
      by_cases hn : n = "Unpack"
      · simp only [hn, hparts xs _ fun _ hx => hx]
      · simp only [hparts xs _ fun _ hx => hx]
    | union piped xs =>
      unfold World.display
      cases piped <;> simp only [hparts xs _ fun _ hx => hx]
    | looseCallable xs =>
      have hc : w.Valid callableRoot := trivial
      unfold World.display
      simp only [hparts xs _ fun _ hx => hx, h.qualified hc]
    | dict ks vs =>
      unfold World.display
      simp only [hparts ks _ fun _ hx => List.mem_append_left _ hx,
        hparts vs _ fun _ hx => List.mem_append_right _ hx]
    | applied n c xs =>
      unfold World.display
      by_cases hn : n = ""
      · simp only [hn, hparts xs _ fun _ hx => hx, h.qualified hv.1]
      · simp only [hparts xs _ fun _ hx => hx]
    | native c xs =>
      unfold World.display
      simp only [hparts xs _ fun _ hx => hx, h.qualified hv.1]
    | annotated inner notes =>
      unfold World.display
      simp only [ih inner (List.mem_cons_self ..),
        hparts notes _ fun _ hx => List.mem_cons_of_mem _ hx]
    | initVar inner =>
      have hinner := ih inner (List.mem_singleton_self _)
      unfold World.display
      simp only [hinner]
      cases inner with
      | cls c =>
        have hc : w.Valid c := sound_cls.mp (hchildren _ (List.mem_singleton_self _))
        simp only [h.nameOf hc]
      | _ => rfl
    | member c n =>
      have hc : w.Valid c := hv
      unfold World.display
      simp only [h.membersOf hc, h.nameOf hc]
    | module m =>
      unfold World.display
      simp only [h.files]
    | _ =>
      unfold World.display
      rfl

/-! Arguments of classes. -/

section Subscripts

variable {index target : Value}

theorem Grown.echoes_applyGeneric (h : w.Grown w') (hc : w.Valid c) :
    Echoes (w.applyGeneric c index) (w'.applyGeneric c index) := by
  unfold applyGeneric
  rw [h.nameOf hc, h.displayClass hc, h.parametersOf hc]
  exact .refl _

theorem Grown.echoes_applyClass (h : w.Grown w') (hw : w.Closed) (hc : w.Valid c) :
    Echoes (w.applyClass c index) (w'.applyClass c index) := by
  unfold applyClass
  rw [h.metaclassOf hc, h.membersOf hc, h.displayClass hc, h.subscriptionOf hw hc]
  refine echoes_ite (fun _ => ?_) fun _ => echoes_ite (fun _ => echoes_error) fun _ => ?_
  · extract_lets found
    cases found with
    | none => exact echoes_error
    | some m => exact .refl _
  · cases w.subscriptionOf c with
    | none => exact echoes_error
    | some s =>
      cases s with
      | native => exact .refl _
      | generic => exact h.echoes_applyGeneric hc
      | annotated => exact echoes_applyAnnotated w w' _
      | initVar => exact .refl _
      | callable => exact echoes_applyNativeCallable w w' _

theorem Grown.echoes_subscript (h : w.Grown w') (hw : w.Closed) (ht : w.Sound target) :
    Echoes (w.subscript target index) (w'.subscript target index) := by
  unfold subscript
  split
  · exact h.echoes_applyClass hw (sound_cls.mp ht)
  · exact echoes_applyForm w w' _ _
  · exact echoes_applyAlias w w' _ _
  · exact echoes_ite (fun _ => echoes_error) fun _ => echoes_applyVariables w w' _ _
  · exact echoes_applyVariables w w' _ _
  · exact echoes_applyVariables w w' _ _
  · exact echoes_applyVariables w w' _ _
  · exact echoes_applyVariables w w' _ _
  · exact echoes_applyVariables w w' _ _
  · exact echoes_applyVariables w w' _ _
  · exact .refl _
  · exact .refl _
  · split
    · exact .refl _
    · exact echoes_error
  · exact echoes_error

end Subscripts

/-! Attributes and calls. -/

section Attributes

variable {name : String} {callee : Value} {xs : List Value}

/-- What stands under a name in a class does not change. -/
theorem Grown.classAttribute (h : w.Grown w') (hw : w.Closed) (hc : w.Valid c) :
    w'.classAttribute? c name = w.classAttribute? c name := by
  unfold classAttribute?
  rw [h.ancestorsOf hc]
  refine findSome?_eq_of_forall fun d hd => ?_
  rw [h.attributesOf (valid_of_mem_ancestorsOf hw hc hd)]

theorem Grown.ofClass (h : w.Grown w') (hw : w.Closed) (hc : w.Valid c) :
    w'.ofClass c name = w.ofClass c name := by
  unfold World.ofClass
  rw [h.membersOf hc, h.classAttribute hw hc, h.nameOf hc, h.pathOf hc, h.moduleOf hc]
  split
  · rfl
  · split
    · next d a hd =>
      obtain ⟨d', hmem, hd⟩ := List.exists_of_findSome?_eq_some hd
      obtain ⟨a', -, he⟩ := Option.map_eq_some_iff.mp hd
      cases he
      rw [h.attributeValue (valid_of_mem_ancestorsOf hw hc hmem)]
    · rfl

theorem Continues.echoes_attributeOf (h : w.Continues counts w') (hw : w.Closed)
    (hv : w.Sound v) (hn : counts name) :
    Echoes (w.attributeOf v name) (w'.attributeOf v name) := by
  unfold attributeOf
  extract_lets missing missing'
  have hmissing : Echoes missing missing' := echoes_error
  split
  · split
    · next x hx =>
      rw [h.names hn hx]
      exact .refl _
    · exact echoes_error
  · rw [h.ofClass hw (sound_cls.mp hv)]
    exact .refl _
  · rw [h.ofClass hw (sound_applied.mp hv).1.1]
    exact .refl _
  · rw [h.ofClass hw (sound_native.mp hv).1.1]
    exact .refl _
  · have hc : w.Valid callableRoot := valid_library
    rw [h.ofClass hw hc]
    exact .refl _
  · rw [h.ofClass hw (aliasOrigin_cases w _).1]
    exact .refl _
  · rw [h.membersOf (sound_member.mp hv)]
    refine echoes_ite (fun _ => .refl _) fun _ => echoes_ite (fun _ => ?_) fun _ => hmissing
    split
    · exact .refl _
    · exact hmissing
  · next i =>
    have hlt : i < w.paramSpecs.size := sound_paramSpec.mp hv
    have hi : w.paramSpecs[i]? = some w.paramSpecs[i] := Array.getElem?_eq_getElem hlt
    rw [h.paramSpecs hi, hi]
    exact echoes_ite (fun _ => .refl _) fun _ => hmissing
  · exact hmissing

theorem Grown.className (h : w.Grown w') (hv : w.Sound v) : v.className w' = v.className w := by
  unfold Value.className
  split
  · rfl
  all_goals
    first
      | rfl
      | simp only [h.metaclassOf (sound_cls.mp hv)]
      | simp only [h.nameOf (sound_member.mp hv)]

theorem Grown.classOf (h : w.Grown w') (hv : w.Sound v) : w'.classOf v = w.classOf v := by
  unfold World.classOf
  split
  · rfl
  · rw [h.metaclassOf (sound_cls.mp hv)]
  all_goals first | rfl | rw [h.className hv]

theorem Continues.echoes_call (h : w.Continues counts w') (hf : w.Sound callee)
    (hxs : ∀ x ∈ xs, w.Sound x) : Echoes (w.call callee xs) (w'.call callee xs) := by
  have hone : ∀ {x : Value}, (∀ y ∈ [x], w.Sound y) → w.Sound x :=
    fun h => h _ (List.mem_singleton_self _)
  have hshown : ∀ {x : Value}, w.Sound x → w'.shown x = w.shown x := fun hx => h.display hx .alone
  unfold call
  split
  case h_1 =>
    rw [h.classOf (hone hxs)]
    exact .refl _
  case h_2 | h_3 =>
    rw [hshown (hone hxs)]
    exact .refl _
  case h_13 =>
    rw [h.qualified (sound_cls.mp hf)]
    exact .refl _
  case h_15 =>
    split
    · exact .refl _
    · exact echoes_error
  case h_17 =>
    rw [h.qualified (sound_applied.mp hf).1.1]
    exact .refl _
  case h_18 =>
    rw [h.qualified (sound_native.mp hf).1.1]
    exact .refl _
  case h_19 => exact echoes_error
  all_goals exact .refl _

end Attributes

/-! Expressions. -/

section Expressions

variable {s s' : Scope}

mutual

/-- An expression gives the same value in a world that continues this one, if its names mean the
same and the attributes in it count. -/
theorem Continues.echoes_evaluate (h : w.Continues counts w') (hw : w.Closed)
    (hs : w.SoundScope s) : (e : Expr) →
      (∀ n ∈ e.names, Echoes (s.lookup n) (s'.lookup n)) →
      (∀ a ∈ e.attributes, counts (s.known a) ∧ s'.known a = s.known a) →
      Echoes (w.evaluate s e) (w'.evaluate s' e)
  | .none, _, _ | .ellipsis, _, _ | .bool _, _, _ | .int _, _, _ | .float _, _, _
  | .str _, _, _ | .bytes _, _, _ => by
    rw [evaluate, evaluate]
    exact .refl _
  | .name n, hn, _ => by
    rw [evaluate, evaluate]
    exact hn n (List.mem_singleton_self n)
  | .attribute of n, hn, ha => by
    obtain ⟨⟨hcounts, hknown⟩, hof⟩ := List.forall_mem_cons.mp ha
    rw [evaluate, evaluate, hknown]
    refine (h.echoes_evaluate hw hs of hn hof).bind fun v hv => ?_
    exact h.echoes_attributeOf hw (gives_evaluate hw hs of v hv) hcounts
  | .subscript of index, hn, ha => by
    obtain ⟨hnof, hnindex⟩ := List.forall_mem_append.mp hn
    obtain ⟨haof, haindex⟩ := List.forall_mem_append.mp ha
    rw [evaluate, evaluate]
    refine (h.echoes_evaluate hw hs of hnof haof).bind fun v hv => ?_
    refine (h.echoes_evaluate hw hs index hnindex haindex).bind fun i _ => ?_
    exact h.echoes_subscript hw (gives_evaluate hw hs of v hv)
  | .tuple items, hn, ha | .list items, hn, ha => by
    rw [evaluate, evaluate]
    exact (h.echoes_evaluateAll hw hs items hn ha).map
  | .set items, hn, ha => by
    rw [evaluate, evaluate]
    refine (h.echoes_evaluateAll hw hs items hn ha).bind fun vs _ => ?_
    split
    · exact echoes_error
    · exact .refl _
  | .dict entries, hn, ha => by
    rw [evaluate, evaluate]
    refine (h.echoes_evaluateEntries hw hs entries hn ha).bind fun kvs _ => ?_
    dsimp only
    split
    · exact echoes_error
    · exact .refl _
  | .either left right, hn, ha => by
    obtain ⟨hnl, hnr⟩ := List.forall_mem_append.mp hn
    obtain ⟨hal, har⟩ := List.forall_mem_append.mp ha
    rw [evaluate, evaluate]
    refine (h.echoes_evaluate hw hs left hnl hal).bind fun l _ => ?_
    exact (h.echoes_evaluate hw hs right hnr har).bind fun r _ => echoes_pipe w w' l r
  | .call callee arguments named, hn, ha => by
    obtain ⟨hnc, hn⟩ := List.forall_mem_append.mp hn
    obtain ⟨hna, hnn⟩ := List.forall_mem_append.mp hn
    obtain ⟨hac, ha⟩ := List.forall_mem_append.mp ha
    obtain ⟨haa, han⟩ := List.forall_mem_append.mp ha
    rw [evaluate, evaluate]
    refine (h.echoes_evaluate hw hs callee hnc hac).bind fun f hf => ?_
    refine (h.echoes_evaluateAll hw hs arguments hna haa).bind fun vs hvs => ?_
    refine (h.echoes_evaluateNamed hw hs named hnn han).bind fun more hmore => ?_
    exact h.echoes_call (gives_evaluate hw hs callee f hf) (List.forall_mem_append.mpr
      ⟨gives_evaluateAll hw hs arguments vs hvs, gives_evaluateNamed hw hs named more hmore⟩)
  | .operation symbol operands, hn, ha => by
    rw [evaluate, evaluate]
    exact (h.echoes_evaluateAll hw hs operands hn ha).map

theorem Continues.echoes_evaluateAll (h : w.Continues counts w') (hw : w.Closed)
    (hs : w.SoundScope s) : (es : List Expr) →
      (∀ n ∈ Expr.wordsOf.all Expr.ofName es, Echoes (s.lookup n) (s'.lookup n)) →
      (∀ a ∈ Expr.wordsOf.all Expr.ofAttribute es, counts (s.known a) ∧ s'.known a = s.known a) →
      Echoes (evaluate.evaluateAll w s es) (evaluate.evaluateAll w' s' es)
  | [], _, _ => .refl _
  | e :: es, hn, ha => by
    obtain ⟨hne, hnes⟩ := List.forall_mem_append.mp hn
    obtain ⟨hae, haes⟩ := List.forall_mem_append.mp ha
    rw [evaluate.evaluateAll, evaluate.evaluateAll]
    refine (h.echoes_evaluate hw hs e hne hae).bind fun v _ => ?_
    exact (h.echoes_evaluateAll hw hs es hnes haes).map

theorem Continues.echoes_evaluateEntries (h : w.Continues counts w') (hw : w.Closed)
    (hs : w.SoundScope s) : (es : List (Expr × Expr)) →
      (∀ n ∈ Expr.wordsOf.entries Expr.ofName es, Echoes (s.lookup n) (s'.lookup n)) →
      (∀ a ∈ Expr.wordsOf.entries Expr.ofAttribute es,
        counts (s.known a) ∧ s'.known a = s.known a) →
      Echoes (evaluate.evaluateEntries w s es) (evaluate.evaluateEntries w' s' es)
  | [], _, _ => .refl _
  | (key, value) :: es, hn, ha => by
    obtain ⟨hnk, hn⟩ := List.forall_mem_append.mp hn
    obtain ⟨hnv, hnes⟩ := List.forall_mem_append.mp hn
    obtain ⟨hak, ha⟩ := List.forall_mem_append.mp ha
    obtain ⟨hav, haes⟩ := List.forall_mem_append.mp ha
    rw [evaluate.evaluateEntries, evaluate.evaluateEntries]
    refine (h.echoes_evaluate hw hs key hnk hak).bind fun k _ => ?_
    refine (h.echoes_evaluate hw hs value hnv hav).bind fun v _ => ?_
    exact (h.echoes_evaluateEntries hw hs es hnes haes).map

theorem Continues.echoes_evaluateNamed (h : w.Continues counts w') (hw : w.Closed)
    (hs : w.SoundScope s) : (es : List (String × Expr)) →
      (∀ n ∈ Expr.wordsOf.named Expr.ofName es, Echoes (s.lookup n) (s'.lookup n)) →
      (∀ a ∈ Expr.wordsOf.named Expr.ofAttribute es,
        counts (s.known a) ∧ s'.known a = s.known a) →
      Echoes (evaluate.evaluateNamed w s es) (evaluate.evaluateNamed w' s' es)
  | [], _, _ => .refl _
  | (n, e) :: es, hn, ha => by
    obtain ⟨hne, hnes⟩ := List.forall_mem_append.mp hn
    obtain ⟨hae, haes⟩ := List.forall_mem_append.mp ha
    rw [evaluate.evaluateNamed, evaluate.evaluateNamed]
    refine (h.echoes_evaluate hw hs e hne hae).bind fun v _ => ?_
    exact (h.echoes_evaluateNamed hw hs es hnes haes).map

end

end Expressions

end World

end TypeProjection.Annotation
