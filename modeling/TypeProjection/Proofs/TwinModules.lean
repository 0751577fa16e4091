import TypeProjection.Proofs.LibraryImports
import TypeProjection.Proofs.LoadedWorlds
import TypeProjection.Proofs.Respelling
import TypeProjection.Proofs.TwinRuns

/-!
# Postponed annotations

A module whose annotations are evaluated as it runs can be run with its annotations kept as texts,
and is the same universe: its classes have the same members, with the same types. This holds if every
word in an annotation has one binding at most, and if nothing that the annotation of a getter names is
bound in the body of its class: such an annotation is evaluated in the body, but its text is read
among the names of the module only.
-/

namespace TypeProjection

open Annotation

namespace Definition

variable {c : Course} {later later' : List String} {w w' w₁ w₂ : World} {s : Setting}
  {definitions : List ModuleItem} {final : World} {v : Value} {name : String}

theorem Twin.mono (h : Twin c later w w') (hlater : ∀ n ∈ later', n ∈ later) :
    Twin c later' w w' :=
  h.evolve ((World.Grown.refl w).evolves rfl rfl later) h.closed h.outline rfl rfl hlater

theorem withNames_classes (w : World) (module : String) (names : List (String × Value)) :
    (w.withNames module names).classes = w.classes := by
  unfold World.withNames World.changeModule
  cases w.current.lookup module <;> rfl

theorem outline_withNames (w : World) (module : String) (names : List (String × Value)) :
    (w.withNames module names).outline = w.outline.withNames module names := by
  unfold World.withNames World.changeModule World.outline
  cases w.current.lookup module <;> rfl

/-- A module binds a name in both worlds. -/
theorem Twin.bind (ht : Twin c later w w') (hv : w.Sound v) (hn : name ∈ later)
    (hrun : (Definition.bind s name v).run.run w = (.ok (), w₁)) :
    ∃ w₁', (Definition.bind s.late name v).run.run w' = (.ok (), w₁') ∧ Twin c later w₁ w₁' ∧
      w.Grown w₁ := by
  obtain ⟨hclosed, hgrown, -⟩ := (keeps_bind hv).of_run ht.closed hrun
  cases hrun
  have hnames : w'.namesOf s.late.module = w.namesOf s.module := by
    change w'.namesOf s.module = _
    rw [World.eq_of_outline World.outline_namesOf ht.outline]
  refine ⟨_, rfl, ht.evolve (World.evolves_withNames hgrown hn) hclosed ?_ (withNames_classes ..)
    (withNames_classes ..) fun _ h => h, hgrown⟩
  change (w.withNames s.module _).outline = (w'.withNames s.module _).outline
  rw [outline_withNames, outline_withNames, hnames, ht.outline]

/-- A module binds names in both worlds. -/
theorem Twin.bindAll {α : Type} {name : α → String} {value : α → Value} (ht : Twin c later w w')
    (entries : List α) (hv : ∀ e ∈ entries, w.Sound (value e))
    (hn : ∀ e ∈ entries, name e ∈ later)
    (hrun : (entries.forM fun e => Definition.bind s (name e) (value e)).run.run w = (.ok (), w₁)) :
    ∃ w₁', (entries.forM fun e => Definition.bind s.late (name e) (value e)).run.run w' =
      (.ok (), w₁') ∧ Twin c later w₁ w₁' := by
  induction entries generalizing w w' with
  | nil =>
    cases hrun
    exact ⟨w', rfl, ht⟩
  | cons e entries ih =>
    obtain ⟨hve, hvs⟩ := List.forall_mem_cons.mp hv
    obtain ⟨hne, hns⟩ := List.forall_mem_cons.mp hn
    obtain ⟨⟨⟩, w₂, hbind, hrest⟩ := run_bind_ok.mp hrun
    obtain ⟨w₂', hbind', ht₂, hgrown⟩ := ht.bind hve hne hbind
    obtain ⟨w₁', hrest', ht₁⟩ := ih ht₂ (fun e he => hgrown.sound ht.closed (hvs e he)) hns hrest
    exact ⟨w₁', run_bind_ok.mpr ⟨(), w₂', hbind', hrest'⟩, ht₁⟩

/-- The variable that a definition makes. -/
def makeVariable (s : Setting) (d : VariableDefinition) : Run Value := do
  let alternatives ← d.alternatives.mapM (valueOfText s .outside)
  let bound ← match d.bound with
    | none => pure none
    | some text => do
      let v ← valueOfText s .outside text
      pure (some v)
  newTypeVar s d.name d.variance alternatives bound d.needsConstructor

theorem runVariable_eq (d : VariableDefinition) : runVariable s d =
    makeVariable s d >>= Definition.bind s (Text.normalForm d.boundTo) := by
  unfold runVariable makeVariable
  rw [bind_assoc]
  congr 1
  funext alternatives
  cases d.bound with
  | none => rfl
  | some text => simp only [bind_assoc, pure_bind]

theorem steady_makeVariable (d : VariableDefinition) : Steady (makeVariable s d) := by
  refine (steady_mapM (fun _ => steady_valueOfText) _).bind fun alternatives => ?_
  cases d.bound with
  | none => exact steady_pure.bind fun _ => steady_newTypeVar
  | some text =>
    exact steady_valueOfText.bind fun _ => steady_pure.bind fun _ => steady_newTypeVar

/-- Outside of all classes there are no names but those of the module. -/
theorem soundNames_outside (w : World) : w.SoundNames Spot.outside.locals :=
  fun _ h => (List.not_mem_nil h).elim

theorem leads_makeVariable (d : VariableDefinition) : Leads w (makeVariable s d) World.Sound := by
  refine (leads_texts (soundNames_outside w) d.alternatives).bind fun values w₁ hw₁ _ hvalues => ?_
  extract_lets make
  cases d.bound with
  | none =>
    dsimp only
    rw [pure_bind]
    exact leads_newTypeVar hvalues fun _ (h : none = some _) => nomatch h
  | some text =>
    refine (leads_valueOfText (soundNames_outside w₁)).bind fun v w₂ _ hg₂ hv => ?_
    rw [pure_bind]
    exact leads_newTypeVar (fun a ha => hg₂.sound hw₁ (hvalues a ha)) fun _ h =>
      Option.some_inj.mp h ▸ hv

/-- What a module imports, it imports without making classes. -/
structure SteadyImports (importFrom : String → List String → Run (List Value)) : Prop where
  sound : Imports importFrom
  steady : ∀ module names, Steady (importFrom module names)

/-- The named type that a definition makes. -/
def makeNamedType (s : Setting) (name supertype : String) : Run Value := do
  let v ← valueOfText s .outside supertype
  newNamedType s name v

theorem runNewType_eq (name supertype : String) : runDefinition s (.newType name supertype) =
    makeNamedType s name supertype >>= Definition.bind s (Text.normalForm name) :=
  (bind_assoc _ _ _).symm

/-- A value that a definition makes, and the name that it is bound to. -/
theorem Twin.define {m m' : Run Value} (ht : Twin c later w w') (hv : Leads w m World.Sound)
    (hm : ∀ {v w₂}, m.run.run w = (.ok v, w₂) → w₂.Grown final →
      ∃ w₂', m'.run.run w' = (.ok v, w₂') ∧ Twin c later w₂ w₂')
    (hn : name ∈ later) (hrun : (m >>= Definition.bind s name).run.run w = (.ok (), w₁))
    (hfinal : w₁.Grown final) :
    ∃ w₁', (m' >>= Definition.bind s.late name).run.run w' = (.ok (), w₁') ∧
      Twin c later w₁ w₁' := by
  obtain ⟨v, w₂, hmake, hbind⟩ := run_bind_ok.mp hrun
  obtain ⟨hclosed, -, hsound⟩ := hv.of_run ht.closed hmake
  have hgrown := ((keeps_bind hsound).of_run hclosed hbind).2.1
  obtain ⟨w₂', hmake', ht₂⟩ := hm hmake (hgrown.trans hfinal)
  obtain ⟨w₁', hbind', ht₁, -⟩ := ht₂.bind hsound hn hbind
  exact ⟨w₁', run_bind_ok.mpr ⟨v, w₂', hmake', hbind'⟩, ht₁⟩

section Module

variable {before after : List ModuleItem} {item : ModuleItem}
  (hc : Suits definitions c s final) (hi : SteadyImports s.importFrom)
include hc hi

/-- A definition of the module is run in both worlds. -/
theorem twin_runDefinition (hsplit : definitions = before ++ item :: after)
    (ht : Twin c ((item :: after).flatMap ModuleItem.bound) w w')
    (hrun : (runDefinition s item).run.run w = (.ok (), w₁)) (hfinal : w₁.Grown final) :
    ∃ w₁', (runDefinition s.late item).run.run w' = (.ok (), w₁') ∧
      Twin c ((item :: after).flatMap ModuleItem.bound) w₁ w₁' := by
  have hout := soundNames_outside w
  have hmem : ∀ {n : String}, n ∈ item.bound → n ∈ (item :: after).flatMap ModuleItem.bound :=
    fun hn => List.mem_flatMap.mpr ⟨item, List.mem_cons_self .., hn⟩
  have hsteady : ∀ {m : Run Value} {v w₂}, Steady m → Leads w m World.Sound →
      m.run.run w = (.ok v, w₂) → ∃ w₂', m.run.run w' = (.ok v, w₂') ∧
        Twin c ((item :: after).flatMap ModuleItem.bound) w₂ w₂' := by
    intro m v w₂ hm hl hrun
    obtain ⟨w₂', hrun', ht₂, -⟩ := ht.steady hm hl hrun
    exact ⟨w₂', hrun', ht₂⟩
  cases item with
  | cls d =>
    refine ht.define (leads_runClass hout d) (fun hmake hg => ?_)
      (hmem (List.mem_singleton_self _)) hrun hfinal
    obtain ⟨w₂', hmake', ht₂, -⟩ :=
      repeats_class hc d (p := .outside) (.outer hsplit) ht hout hmake hg
    exact ⟨w₂', hmake', ht₂⟩
  | enum d =>
    refine ht.define (leads_runEnum hout) (fun hmake _ => ?_)
      (hmem (List.mem_singleton_self _)) hrun hfinal
    obtain ⟨w₂', hmake', ht₂, -⟩ := ht.runEnum hout hmake
    exact ⟨w₂', hmake', ht₂⟩
  | typeVar d =>
    rw [runDefinition, runVariable_eq] at hrun ⊢
    exact ht.define (leads_makeVariable d)
      (fun hmake _ => hsteady (steady_makeVariable d) (leads_makeVariable d) hmake)
      (hmem (List.mem_singleton_self _)) hrun hfinal
  | newType written supertype =>
    rw [runNewType_eq] at hrun ⊢
    have hleads : Leads w (makeNamedType s written supertype) World.Sound :=
      (leads_valueOfText hout).bind fun _ _ _ _ hv => leads_newNamedType hv
    have hmakes : Steady (makeNamedType s written supertype) :=
      steady_valueOfText.bind fun _ => steady_newNamedType
    exact ht.define hleads (fun hmake _ => hsteady hmakes hleads hmake)
      (hmem (List.mem_singleton_self _)) hrun hfinal
  | «alias» written text =>
    exact ht.define (leads_assignedValue hout)
      (fun hmake _ => hsteady steady_assignedValue (leads_assignedValue hout) hmake)
      (hmem (List.mem_singleton_self _)) hrun hfinal
  | imports module names =>
    obtain ⟨values, w₂, himport, hbind⟩ := run_bind_ok.mp hrun
    obtain ⟨w₂', himport', ht₂, -, hsound⟩ :=
      ht.steady (hi.steady module names) (hi.sound module names w) himport
    obtain ⟨w₁', hbind', ht₁⟩ := ht₂.bindAll (names.zip values)
      (fun e he => hsound e.2 (List.of_mem_zip he).2)
      (fun e he => hmem (List.mem_map_of_mem (List.of_mem_zip he).1)) hbind
    exact ⟨w₁', run_bind_ok.mpr ⟨values, w₂', himport', hbind'⟩, ht₁⟩
  | raising _ => cases hrun

/-- All definitions that are left are run in both worlds. -/
theorem twin_forM (before : List ModuleItem) (hsplit : definitions = before ++ after)
    (ht : Twin c (after.flatMap ModuleItem.bound) w w')
    (hrun : (after.forM (runDefinition s)).run.run w = (.ok (), w₁)) (hfinal : w₁.Grown final) :
    ∃ w₁', (after.forM (runDefinition s.late)).run.run w' = (.ok (), w₁') ∧
      Twin c [] w₁ w₁' := by
  induction after generalizing before w w' with
  | nil =>
    cases hrun
    exact ⟨w', rfl, ht⟩
  | cons item after ih =>
    obtain ⟨⟨⟩, w₂, hitem, hrest⟩ := run_bind_ok.mp hrun
    obtain ⟨hclosed, -, -⟩ := (keeps_runDefinition hi.sound item).of_run ht.closed hitem
    have hkeeps : Keeps w₂ (after.forM (runDefinition s)) :=
      leads_forM fun item _ _ _ _ => keeps_runDefinition hi.sound item
    have hgrown := (hkeeps.of_run hclosed hrest).2.1
    obtain ⟨w₂', hitem', ht₂⟩ := twin_runDefinition hc hi hsplit ht hitem (hgrown.trans hfinal)
    obtain ⟨w₁', hrest', ht₁⟩ := ih (before ++ [item]) (by simpa using hsplit)
      (ht₂.mono fun n hn => by
        rw [List.flatMap_cons]
        exact List.mem_append_right _ hn) hrest
    exact ⟨w₁', run_bind_ok.mpr ⟨(), w₂', hitem', hrest'⟩, ht₁⟩

/-- The module is run in both worlds. -/
theorem twin_runDefinitions (hw : w.Closed) (hstart : c.start ≤ w.classes.size)
    (hrun : (runDefinitions s definitions).run.run w = (.ok (), final)) :
    ∃ w₁', (runDefinitions s.late definitions).run.run w = (.ok (), w₁') ∧
      Twin c [] final w₁' := by
  obtain ⟨⟨⟩, w₂, hpreamble, hdefinitions⟩ := run_bind_ok.mp hrun
  let later := preamble.map (·.1) ++ definitions.flatMap ModuleItem.bound
  have ht : Twin c later w w := .refl hw hstart
  obtain ⟨w₂', hpreamble', ht₂⟩ := ht.bindAll preamble (sound_preamble hw)
    (fun e he => List.mem_append_left _ (List.mem_map_of_mem he)) hpreamble
  obtain ⟨w₁', hdefinitions', ht₁⟩ := twin_forM hc hi [] rfl
    (ht₂.mono fun n hn => List.mem_append_right _ hn) hdefinitions (.refl final)
  exact ⟨w₁', run_bind_ok.mpr ⟨(), w₂', hpreamble', hdefinitions'⟩, ht₁⟩

end Module

/-! The universe of the second world. -/

/-- Nothing is left to resolve in the annotations of the classes that the module has made. -/
def Course.Textless (c : Course) (w : World) : Prop :=
  ∀ {i info}, c.start ≤ i → w.classes[i]? = some info →
    (∀ a ∈ info.annotations, w.Textless a.2) ∧
    ∀ a ∈ info.attributes, ∀ v m b, a.2 = .property (some ⟨some v, m⟩) b → w.Textless v

/-- A text means the value that stands in its place, once all names are bound. -/
theorem Twin.postpones (ht : Twin c [] w w') (hc : c.Textless w) : w.Postpones w' := by
  have hinfos : ∀ i, (w.classes[i]? = none ∧ w'.classes[i]? = none) ∨
      ∃ info info', w.classes[i]? = some info ∧ w'.classes[i]? = some info' ∧
        ClassTwin c [] w i info info' := by
    intro i
    cases hi : w.classes[i]? with
    | none =>
      refine .inl ⟨rfl, ?_⟩
      rw [Array.getElem?_eq_none_iff] at hi ⊢
      rwa [ht.size_eq]
    | some info =>
      obtain ⟨info', hi', htwin⟩ := ht.classes hi
      exact .inr ⟨info, info', rfl, hi', htwin⟩
  constructor
  · exact ht.outline
  · intro ref
    cases ref with
    | library m n => exact .nil
    | declared i =>
      simp only [World.annotationsOf, World.info?, World.moduleOf]
      rcases hinfos i with ⟨hi, hi'⟩ | ⟨info, info', hi, hi', htwin⟩
      · rw [hi, hi']
        exact .nil
      · rw [hi, hi']
        rcases htwin.home with rfl | ⟨hstart, hmodule⟩
        · exact List.forall₂_same.mpr fun a _ => ⟨rfl, .same _, id⟩
        · refine forall₂_of_mem htwin.annotations fun a ha t hat => ⟨hat.name, ?_, hat.marks⟩
          have hawaits := hat.value.awaits ((hc hstart hi).1 a ha)
          rwa [← hmodule] at hawaits
  · intro ref
    cases ref with
    | library m n => exact List.forall₂_same.mpr fun a _ => ⟨rfl, .same _⟩
    | declared i =>
      simp only [World.attributesOf]
      rcases hinfos i with ⟨hi, hi'⟩ | ⟨info, info', hi, hi', htwin⟩
      · rw [hi, hi']
        exact .nil
      · rw [hi, hi']
        rcases htwin.home with rfl | ⟨hstart, -⟩
        · exact List.forall₂_same.mpr fun a _ => ⟨rfl, .same _⟩
        · refine forall₂_of_mem htwin.attributes fun a ha t hat => ⟨hat.name, ?_⟩
          obtain ⟨n, a⟩ := a
          obtain ⟨m, t⟩ := t
          cases hat.value with
          | same => exact .same a
          | property h => exact .property (h.awaits ((hc hstart hi).2 _ ha _ _ _ rfl))

end Definition

namespace Annotation.World

open Definition

/-- What a module asks of the world that it ends in, so that its annotations may be kept as texts:
nothing in their values is left to resolve, and every class still has what its body bound under the
names in them. -/
structure Settles (definitions : List ModuleItem) (c : Course) (final : World) : Prop where
  textless : c.Textless final
  dicts : c.PlainDicts final
  fitting : ∀ {later path d}, ClassIn definitions later path d → ∀ {i info}, c.start ≤ i →
    final.classes[i]? = some info → info.path = String.intercalate "." path →
      Fitting d.Annotates (d.body.flatMap (BodyItem.bound d.owner)) info

/-- Whatever a module defines that runs with its annotations evaluated, it runs with its annotations
kept as texts, too, and ends in the same universe: all classes have the same members, in the same
order and of the same types. -/
theorem postponed_types {w : World} (hw : w.Loaded) {module : String}
    {definitions : List ModuleItem} {final : World} (hsource : SinglyBound definitions)
    (hgetters : GettersApart definitions)
    (hfinal : final.Settles definitions ⟨module, w.classes.size, AnnotatesIn definitions⟩)
    (hrun : runAlone w module ⟨false, definitions⟩ = (final, .ok ())) :
    ∃ w', runAlone w module ⟨true, definitions⟩ = (w', .ok ()) ∧ w'.types = final.types := by
  let imports := SearchPath.importFrom ⟨.empty [], []⟩ module
  let setting : Setting := ⟨module, false, imports⟩
  let start := w.addModule ⟨module, [], none, none, none, true⟩
  have halone : ∀ b, runAlone w module ⟨b, definitions⟩ =
      (((runDefinitions ⟨module, b, imports⟩ definitions).run.run start).2,
        ((runDefinitions ⟨module, b, imports⟩ definitions).run.run start).1) := fun _ => rfl
  have hdefinitions : (runDefinitions setting definitions).run.run start = (.ok (), final) := by
    rw [halone] at hrun
    obtain ⟨hworld, hresult⟩ := Prod.mk.injEq .. ▸ hrun
    exact Prod.ext hresult hworld
  have hstart : start.Closed :=
    (World.closed_addModule (closed_of_loaded hw) fun _ h => (List.not_mem_nil h).elim).1
  have hsuits : Suits definitions ⟨module, w.classes.size, AnnotatesIn definitions⟩ setting final :=
    ⟨rfl, rfl, hsource, hgetters, id, hfinal.dicts, hfinal.fitting⟩
  obtain ⟨w', hlate, htwin⟩ := twin_runDefinitions hsuits
    ⟨imports_importFrom module, fun _ names =>
      SearchPath.steady_importFrom (SearchPath.findsNothing_empty []) names⟩
    hstart (Nat.le_refl _) hdefinitions
  refine ⟨w', ?_, (htwin.postpones hfinal.textless).types.symm⟩
  have hlate' : (runDefinitions ⟨module, true, imports⟩ definitions).run.run start = (.ok (), w') :=
    hlate
  rw [halone, hlate']

end Annotation.World

/-! A module in which a field of a class refers to a class in the body of the same class, and a getter
of it to something else or to that class, too. -/

namespace Definition

/-- The class inside. -/
def innerClass : ClassDefinition := .mk "Inner" [] [] "" [.field "x" "int" none]

/-- The class around it. -/
def outerClass (returns : String) : ClassDefinition :=
  .mk "Outer" [] [] "" [.cls innerClass, .field "inner" "Inner" none,
    .property .plain "copy" (some returns)]

def nested (returns : String) : List ModuleItem := [.cls (outerClass returns)]

theorem owner_outerClass (returns : String) : (outerClass returns).owner = "Outer" := by
  change Text.normalForm "Outer" = "Outer"
  decide

theorem owner_innerClass : innerClass.owner = "Inner" := by
  decide

theorem classIn_nested {returns : String} {later path : List String} {d : ClassDefinition}
    (h : ClassIn (nested returns) later path d) : later = ["Outer"] ∧
      (path = ["Outer"] ∧ d = outerClass returns ∨ path = ["Outer", "Inner"] ∧ d = innerClass) := by
  induction h with
  | @outer before after d h =>
    cases before with
    | nil =>
      cases h
      have howner := owner_outerClass returns
      exact ⟨congrArg (fun n => [n]) howner, .inl ⟨congrArg (fun n => [n]) howner, rfl⟩⟩
    | cons _ before => simp [nested] at h
  | @inner later path d d' _ hd ih =>
    obtain ⟨rfl, ⟨rfl, rfl⟩ | ⟨rfl, rfl⟩⟩ := ih
    · rw [outerClass, ClassDefinition.body] at hd
      simp only [List.mem_cons, BodyItem.cls.injEq, reduceCtorEq, List.not_mem_nil, or_false] at hd
      subst hd
      rw [owner_innerClass]
      exact ⟨rfl, .inr ⟨rfl, rfl⟩⟩
    · rw [innerClass, ClassDefinition.body] at hd
      simp at hd

section Bodies

variable {returns name text : String} {value : Option String} {before after : List BodyItem}

/-- The one field of the outer class has the getter behind it. -/
theorem field_outerClass
    (h : (outerClass returns).body = before ++ .field name text value :: after) :
    text = "Inner" ∧ after = [.property .plain "copy" (some returns)] := by
  rcases before with _ | ⟨_, _ | ⟨_, _ | ⟨_, before⟩⟩⟩
  · cases h
  · cases h
    exact ⟨rfl, rfl⟩
  · cases h
  · simp [outerClass, ClassDefinition.body] at h

/-- The getter of the outer class has the class inside and the field before it. -/
theorem property_outerClass {kind : PropertyKind}
    (h : (outerClass returns).body = before ++ .property kind name (some text) :: after) :
    text = returns ∧ before = [.cls innerClass, .field "inner" "Inner" none] := by
  rcases before with _ | ⟨_, _ | ⟨_, _ | ⟨_, before⟩⟩⟩
  · cases h
  · cases h
  · cases h
    exact ⟨rfl, rfl⟩
  · simp [outerClass, ClassDefinition.body] at h

theorem field_innerClass (h : innerClass.body = before ++ .field name text value :: after) :
    after = [] := by
  rcases before with _ | ⟨_, before⟩
  · cases h
    rfl
  · simp [innerClass, ClassDefinition.body] at h

theorem no_property_innerClass {kind : PropertyKind} {text : Option String} :
    innerClass.body ≠ before ++ .property kind name text :: after := by
  intro h
  rcases before with _ | ⟨_, before⟩
  · cases h
  · simp [innerClass, ClassDefinition.body] at h

end Bodies

theorem source_of_agrees {s : String} {e e' : Expr}
    (h : (Expr.ofSource? s).any (World.agrees e) = true) (he : Expr.ofSource? s = some e') :
    e' = e := by
  rw [he] at h
  exact (World.eq_of_agrees h).symm

/-- The annotations in the two classes are names. -/
theorem annotation_nested {returns : String} (hr : returns = "int" ∨ returns = "Inner")
    {later path : List String} {d : ClassDefinition} (h : ClassIn (nested returns) later path d)
    {item : BodyItem} {text : String} {e : Expr} (hitem : item ∈ d.body)
    (htext : item.annotation? = some text) (he : Expr.ofSource? text = some e) :
    e = .name "int" ∨ e = .name "Inner" := by
  have htext' : text = "int" ∨ text = "Inner" := by
    obtain ⟨-, ⟨-, rfl⟩ | ⟨-, rfl⟩⟩ := classIn_nested h
    · simp only [outerClass, ClassDefinition.body, List.mem_cons, List.not_mem_nil, or_false]
        at hitem
      rcases hitem with rfl | rfl | rfl <;> cases htext
      · exact .inr rfl
      · exact hr
    · simp only [innerClass, ClassDefinition.body, List.mem_singleton] at hitem
      subst hitem
      cases htext
      exact .inl rfl
  rcases htext' with rfl | rfl
  · exact .inl (source_of_agrees (by decide) he)
  · exact .inr (source_of_agrees (by decide +kernel) he)

theorem singlyBound_nested {returns : String} (hr : returns = "int" ∨ returns = "Inner") :
    SinglyBound (nested returns) where
  written h _ _ _ hitem htext he := by
    rcases annotation_nested hr h hitem htext he with rfl | rfl <;> exact .inl (.name (by decide))
  module := by
    intro later path d h item text e hitem htext he n hn
    obtain ⟨rfl, hd⟩ := classIn_nested h
    have howner : d.owner = "Outer" ∨ d.owner = "Inner" := by
      rcases hd with ⟨-, rfl⟩ | ⟨-, rfl⟩
      · exact .inl (owner_outerClass returns)
      · exact .inr owner_innerClass
    rcases annotation_nested hr h hitem htext he with rfl | rfl <;>
      cases List.mem_singleton.mp hn <;>
      rcases howner with howner | howner <;>
      rw [howner] <;>
      decide
  fields := by
    intro later path d h before after name text value e hbody he n hn
    obtain ⟨-, ⟨-, rfl⟩ | ⟨-, rfl⟩⟩ := classIn_nested h
    · obtain ⟨rfl, rfl⟩ := field_outerClass hbody
      cases source_of_agrees (e := .name "Inner") (by decide +kernel) he
      cases List.mem_singleton.mp hn
      change "Inner" ∉ [nameIn (outerClass returns).owner "copy"]
      rw [owner_outerClass]
      decide
    · obtain rfl := field_innerClass hbody
      exact List.not_mem_nil

theorem gettersApart_nested : GettersApart (nested "int") := by
  intro later path d h before after kind name text e hbody he n hn
  obtain ⟨-, ⟨-, rfl⟩ | ⟨-, rfl⟩⟩ := classIn_nested h
  · obtain ⟨rfl, rfl⟩ := property_outerClass hbody
    cases source_of_agrees (e := .name "int") (by decide) he
    cases List.mem_singleton.mp hn
    change "int" ∉ [nameIn (outerClass "int").owner "Inner"]
    rw [owner_outerClass]
    decide
  · exact (no_property_innerClass hbody).elim

/-- Is the class a plain one, and are all its values classes? -/
def isMadeOfClasses (info : ClassInfo) : Bool :=
  info.metaclass == .plain && info.dataFields.isNone &&
    info.annotations.all (fun a => match a.2 with | .cls _ => true | _ => false) &&
    info.attributes.all fun a => match a.2 with
      | .value (.cls _) => true
      | .property (some ⟨some (.cls _), _⟩) _ => true
      | _ => false

theorem textless_cls (w : World) (c : ClassRef) : w.Textless (.cls c) :=
  ⟨fun _ => by rw [World.resolveParts] <;> simp, nofun⟩

/-- The class is a plain one, and all its values are classes. -/
structure MadeOfClasses (info : ClassInfo) : Prop where
  metaclass : info.metaclass = .plain
  dataFields : info.dataFields = none
  annotations : ∀ a ∈ info.annotations, ∃ c, a.2 = .cls c
  attributes : ∀ a ∈ info.attributes, (∃ c, a.2 = .value (.cls c)) ∨
    ∃ c m b, a.2 = .property (some ⟨some (.cls c), m⟩) b

theorem madeOfClasses_of_check {info : ClassInfo} (h : isMadeOfClasses info = true) :
    MadeOfClasses info := by
  simp only [isMadeOfClasses, Bool.and_eq_true, List.all_eq_true, beq_iff_eq,
    Option.isNone_iff_eq_none] at h
  obtain ⟨⟨⟨hmeta, hdata⟩, hann⟩, hattr⟩ := h
  refine ⟨hmeta, hdata, fun a ha => ?_, fun a ha => ?_⟩
  · have h := hann a ha
    split at h
    · exact ⟨_, ‹_›⟩
    · cases h
  · have h := hattr a ha
    split at h
    · exact .inl ⟨_, ‹_›⟩
    · exact .inr ⟨_, _, _, ‹_›⟩
    · cases h

/-- A class that is made of classes fits annotations that are one name, if it has something under
that name just when its body has bound it. -/
theorem MadeOfClasses.fitting {info : ClassInfo} (h : MadeOfClasses info)
    {own : String → Expr → Prop} {bound : List String} {n : String}
    (hown : ∀ {f e}, own f e → e = .name n)
    (hmarks : ∀ {t}, World.IsTextOf t (.name n) → World.marksField t = true)
    (hn : (info.attributes.lookup n).isSome ↔ n ∈ bound) : Fitting own bound info where
  keeps := by
    intro f e he n' hn'
    cases hown he
    cases List.mem_singleton.mp hn'
    refine ⟨hn, fun a ha hmark => ?_⟩
    obtain ⟨b, hb, rfl⟩ := World.mem_of_lookup_eq ha
    obtain ⟨c, hc⟩ | ⟨c, m, isAbstract, hc⟩ := h.attributes b hb <;>
      obtain hmark | hmark := hmark <;>
      cases hc.symm.trans hmark
  marks := by
    intro f v _ e t he ht hfield
    cases hown he
    rw [hmarks ht] at hfield
    cases hfield
  classVars hspecial := by
    rw [h.metaclass, h.dataFields] at hspecial
    simp at hspecial

theorem marksField_textOf {n : String} (hs : World.marksField (.str n) = true)
    (hf : World.marksField (.forward n "" false) = true) {t : Value}
    (ht : World.IsTextOf t (.name n)) : World.marksField t = true := by
  obtain rfl | ⟨m, f, rfl⟩ := ht
  · exact hs
  · exact hf

end Definition

namespace Annotation.World

open Definition

/-- The world in which the getter refers to numbers. -/
def nestedWorld : World := (runAlone initial "models" ⟨false, nested "int"⟩).1

theorem eq_of_isOk {ε : Type} {r : World × Except ε Unit} (h : r.2.isOk = true) :
    r = (r.1, .ok ()) := by
  obtain ⟨w, _ | ⟨⟨⟩⟩⟩ := r
  · cases h
  · rfl

theorem runAlone_nested :
    runAlone initial "models" ⟨false, nested "int"⟩ = (nestedWorld, .ok ()) := by
  have hok : (runAlone initial "models" ⟨false, nested "int"⟩).2.isOk = true := by decide +kernel
  exact eq_of_isOk hok

theorem classes_nested : nestedWorld.classes.toList.map (fun info =>
    (isMadeOfClasses info, info.path,
      ["int", "Inner"].map fun n => (info.attributes.lookup n).isSome)) =
      [(true, "Outer.Inner", [false, false]), (true, "Outer", [false, true])] := by
  decide +kernel

theorem class_nested {i : Nat} {info : ClassInfo} (h : nestedWorld.classes[i]? = some info) :
    MadeOfClasses info ∧ (info.attributes.lookup "int").isSome = false ∧
      (info.path = "Outer.Inner" ∨
        info.path = "Outer" ∧ (info.attributes.lookup "Inner").isSome = true) := by
  have hmem := List.mem_map_of_mem (f := fun info => (isMadeOfClasses info, info.path,
    ["int", "Inner"].map fun n => (info.attributes.lookup n).isSome))
    (Array.mem_toList_iff.mpr (Array.mem_of_getElem? h))
  rw [classes_nested] at hmem
  simp only [List.map_cons, List.map_nil, List.mem_cons, Prod.mk.injEq, List.cons.injEq,
    List.not_mem_nil, or_false, and_true] at hmem
  obtain ⟨hmade, hpath, hint, hinner⟩ | ⟨hmade, hpath, hint, hinner⟩ := hmem
  · exact ⟨madeOfClasses_of_check hmade, hint, .inl hpath⟩
  · exact ⟨madeOfClasses_of_check hmade, hint, .inr ⟨hpath, hinner⟩⟩

theorem settles_nested :
    nestedWorld.Settles (nested "int") ⟨"models", 0, AnnotatesIn (nested "int")⟩ where
  textless := by
    intro i info _ hi
    obtain ⟨hmade, -⟩ := class_nested hi
    refine ⟨fun a ha => ?_, fun a ha v m b hv => ?_⟩
    · obtain ⟨c, hc⟩ := hmade.annotations a ha
      exact hc ▸ textless_cls _ c
    · obtain ⟨c, hc⟩ | ⟨c, m', b', hc⟩ := hmade.attributes a ha
      · cases hv.symm.trans hc
      · cases hv.symm.trans hc
        exact textless_cls _ c
  dicts _ hi hdict := by
    cases (class_nested hi).1.metaclass.symm.trans hdict
  fitting := by
    intro later path d hd i info _ hi hpath
    obtain ⟨hmade, hint, hinner⟩ := class_nested hi
    obtain ⟨-, ⟨rfl, rfl⟩ | ⟨rfl, rfl⟩⟩ := classIn_nested hd
    · have hlookup : (info.attributes.lookup "Inner").isSome = true := by
        obtain hpath' | ⟨-, h⟩ := hinner
        · exact absurd (hpath.symm.trans hpath') (by decide)
        · exact h
      refine hmade.fitting (n := "Inner") ?_
        (marksField_textOf (by decide) (by decide)) (iff_of_true hlookup ?_)
      · rintro f e ⟨written, text, value, hitem, -, he⟩
        simp [outerClass, ClassDefinition.body] at hitem
        obtain ⟨-, rfl, -⟩ := hitem
        exact source_of_agrees (by decide +kernel) he
      · rw [owner_outerClass]
        change "Inner" ∈ [nameIn "Outer" innerClass.name, nameIn "Outer" "copy"]
        decide
    · refine hmade.fitting (n := "int") ?_
        (marksField_textOf (by decide) (by decide))
        (iff_of_false (by rw [hint]; decide) List.not_mem_nil)
      rintro f e ⟨written, text, value, hitem, -, he⟩
      simp [innerClass, ClassDefinition.body] at hitem
      obtain ⟨-, rfl, -⟩ := hitem
      exact source_of_agrees (by decide) he

theorem postponed_types_nested :
    ∃ w', runAlone initial "models" ⟨true, nested "int"⟩ = (w', .ok ()) ∧
      w'.types = nestedWorld.types :=
  postponed_types .initial (singlyBound_nested (.inl rfl)) gettersApart_nested settles_nested
    runAlone_nested

/-- The members of a class, as they are shown. -/
def membersShown (w : World) (members : List (String × Value)) : List (String × String) :=
  members.map fun m => (m.1, w.displayName m.2)

/-- A getter whose annotation names a class in the body of its own class has that class as its type
only if the annotation is evaluated there: a text is read among the names of the module. -/
theorem postponed_not_always_same :
    ¬ ∀ (definitions : List ModuleItem) (w w' : World), SinglyBound definitions →
      runAlone initial "models" ⟨false, definitions⟩ = (w, .ok ()) →
      runAlone initial "models" ⟨true, definitions⟩ = (w', .ok ()) →
        ∀ v, w.typeMembers v = w'.typeMembers v := by
  intro hall
  let w := (runAlone initial "models" ⟨false, nested "Inner"⟩).1
  have hsame := hall (nested "Inner") _ _ (singlyBound_nested (.inr rfl))
    (eq_of_isOk (by decide +kernel)) (eq_of_isOk (by decide +kernel)) (.cls (.declared 1))
  have heager : membersShown w (w.typeMembers (.cls (.declared 1))) =
      [("inner", "models.Outer.Inner"), ("copy", "models.Outer.Inner")] := by decide +kernel
  have hlate : membersShown w ((runAlone initial "models" ⟨true, nested "Inner"⟩).1.typeMembers
      (.cls (.declared 1))) =
      [("inner", "models.Outer.Inner"), ("copy", "typing.Any")] := by decide +kernel
  rw [← hsame] at hlate
  exact absurd (heager.symm.trans hlate) (by decide)

end Annotation.World

end TypeProjection
