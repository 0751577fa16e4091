import TypeProjection.Proofs.TwinClasses
import TypeProjection.Proofs.SoundRuns

/-!
# What is left of a body

A class keeps what its body put under a name, loses it, or has the mark of a field there instead.
Only dictionaries with fixed keys and tuples with names change the annotations of the body.
-/

namespace TypeProjection.Definition

open Annotation

/-- The attribute only says that there is a field: of a tuple, or with a slot. -/
def IsFieldMark (a : Attribute) : Prop :=
  a = .value (.other "_tuplegetter") ∨ a = .value (.other "<slot>")

/-- What stands under a name stood there before, or is the mark of a field. -/
def Marked (before after : List (String × Attribute)) : Prop :=
  ∀ n a, after.lookup n = some a → IsFieldMark a ∨ before.lookup n = some a

theorem Marked.refl (attributes : List (String × Attribute)) : Marked attributes attributes :=
  fun _ _ h => .inr h

theorem Marked.trans {xs ys zs : List (String × Attribute)} (h : Marked xs ys)
    (h' : Marked ys zs) : Marked xs zs :=
  fun n a ha => (h' n a ha).elim .inl (h n a)

theorem lookup_filter {α : Type} (p : String → Bool) (entries : List (String × α)) (n : String) :
    (entries.filter fun e => p e.1).lookup n = if p n then entries.lookup n else none := by
  induction entries with
  | nil => cases p n <;> rfl
  | cons e entries ih =>
    rw [List.filter_cons]
    cases hn : n == e.1 with
    | true =>
      cases eq_of_beq hn
      cases hp : p e.1 with
      | true => rw [if_pos rfl, if_pos rfl, List.lookup_cons, List.lookup_cons, hn]
      | false => simpa [hp] using ih
    | false =>
      have hlookup : (e :: entries).lookup n = entries.lookup n := by rw [List.lookup_cons, hn]
      rw [hlookup, ← ih]
      split
      · rw [List.lookup_cons, hn]
      · rfl

theorem marked_filter (p : String → Bool) (attributes : List (String × Attribute)) :
    Marked attributes (attributes.filter fun a => p a.1) := by
  intro n a ha
  rw [lookup_filter] at ha
  split at ha
  · exact .inr ha
  · cases ha

/-- Marks of fields beside what stood there before. -/
theorem lookup_marks {names : List String} {a a' : Attribute} {n : String}
    (h : (names.map fun n => (n, a)).lookup n = some a') : a' = a := by
  obtain ⟨e, he, rfl⟩ := World.mem_of_lookup_eq h
  obtain ⟨_, -, rfl⟩ := List.mem_map.mp he
  rfl

variable {w : World} {h : Header} {body : Body} {info : ClassInfo}

/-- What is known of a class that a header and a body make. -/
structure Made (h : Header) (body : Body) (info : ClassInfo) : Prop where
  module : info.module = h.module
  path : info.path = h.path
  attributes : Marked body.attributes info.attributes
  annotations : IsOrdinary h → info.annotations = body.annotations
  metaclass : IsOrdinary h → info.metaclass = h.metaclass
  dict : info.metaclass = .typedDict ↔ IsDict h

theorem made_buildOrdinary (ho : IsOrdinary h) :
    Gives (buildOrdinary w h body) (Made h body) := by
  unfold buildOrdinary
  extract_lets bases protocolBase written build
  refine gives_check ?_
  unfold build
  rw [gives_bind]
  intro order _
  extract_lets isProtocol finish
  have hfinish : ∀ vs, Gives (finish vs) (Made h body) := by
    intro vs
    refine gives_check (gives_check (gives_ok.mpr ⟨rfl, rfl, ?_, fun _ => rfl, fun _ => rfl, ?_⟩))
    · dsimp only
      split
      · rw [Likeness.modelAttributes_eq]
        exact marked_filter _ _
      · exact Marked.refl _
    · exact ⟨fun hd => (ho.2 hd).elim, fun hd => hd.2⟩
  split
  · exact gives_bind.mpr fun vs _ => hfinish vs
  · exact gives_bind.mpr fun vs _ => hfinish vs

theorem made_buildNamedTuple (hn : h.entries.contains .namedTuple = true) :
    Gives (buildNamedTuple w h body) (Made h body) := by
  have hfalse : h.entries.contains .namedTuple = false → False := fun hf =>
    Bool.noConfusion (hn.symm.trans hf)
  unfold buildNamedTuple
  extract_lets fits names isGeneric bases fields build
  have hattributes : Marked body.attributes
      (fields ++ body.attributes.filter fun a => !names.contains a.1) := by
    intro n a ha
    rw [List.lookup_append] at ha
    rcases Option.or_eq_some_iff.mp ha with ha | ⟨-, ha⟩
    · exact .inl (.inl (lookup_marks ha))
    · exact marked_filter (fun n => !names.contains n) _ n a ha
  refine gives_check ?_
  unfold build
  rw [gives_bind]
  intro _ _
  rw [gives_bind]
  intro annotations _
  extract_lets make finish checkAttributes
  have hmake : ∀ vs, Gives (make vs) (Made h body) := fun vs =>
    gives_ok.mpr ⟨rfl, rfl, hattributes, fun ho => (hfalse ho.1).elim, fun ho => (hfalse ho.1).elim,
      fun hd => (nomatch hd), fun hd => (hfalse hd.1).elim⟩
  have hfinish : Gives (finish ()) (Made h body) := by
    unfold finish
    rw [gives_bind]
    intro _ _
    split
    · exact gives_bind.mpr fun vs _ => hmake vs
    · exact gives_bind.mpr fun vs _ => hmake vs
  split
  · exact gives_bind.mpr gives_error
  unfold checkAttributes
  split
  · exact gives_bind.mpr gives_error
  · exact hfinish

theorem made_buildTypedDict (hd : IsDict h) : Gives (buildTypedDict w h body) (Made h body) := by
  unfold buildTypedDict
  extract_lets fits isGeneric bases written inherited finish build
  have hfinish : ∀ vs, Gives (finish vs) (Made h body) := by
    intro vs
    unfold finish
    rw [gives_bind]
    intro own _
    exact gives_ok.mpr ⟨rfl, rfl, Marked.refl _, fun ho => (ho.2 hd.2).elim,
      fun ho => (ho.2 hd.2).elim, ⟨fun _ => hd, fun _ => rfl⟩⟩
  refine gives_check ?_
  unfold build
  rw [gives_bind]
  intro order _
  split
  · exact gives_bind.mpr fun vs _ => hfinish vs
  · exact gives_bind.mpr fun vs _ => hfinish vs

theorem made_buildClass : Gives (buildClass w h body) (Made h body) := by
  unfold buildClass
  split
  · next hn => exact made_buildNamedTuple hn
  · next hn =>
    have hn : h.entries.contains .namedTuple = false := by simpa using hn
    split
    · next hd => exact made_buildTypedDict ⟨hn, eq_of_beq hd⟩
    · next hd => exact made_buildOrdinary ⟨hn, by simpa using hd⟩

/-! Data classes. -/

/-- A class and the data class made of it. -/
structure Remade (info info' : ClassInfo) : Prop where
  module : info'.module = info.module
  path : info'.path = info.path
  annotations : info'.annotations = info.annotations
  metaclass : info'.metaclass = info.metaclass
  attributes : Marked info.attributes info'.attributes
  dataFields : info.dataFields.isSome → info'.dataFields.isSome

theorem Remade.refl (info : ClassInfo) : Remade info info :=
  ⟨rfl, rfl, rfl, rfl, Marked.refl _, id⟩

theorem Remade.trans {i j k : ClassInfo} (h : Remade i j) (h' : Remade j k) : Remade i k :=
  ⟨h'.module.trans h.module, h'.path.trans h.path, h'.annotations.trans h.annotations,
    h'.metaclass.trans h.metaclass, h.attributes.trans h'.attributes,
    fun hi => h'.dataFields (h.dataFields hi)⟩

theorem remade_makeDataClass {o : DataOptions} :
    Gives (makeDataClass w o info) fun i => Remade info i ∧ i.dataFields.isSome := by
  unfold makeDataClass
  extract_lets above inherited
  split
  · exact gives_error
  split
  · exact gives_error
  rw [gives_bind]
  intro fields _
  extract_lets finish
  refine gives_check (gives_ok.mpr ⟨⟨rfl, rfl, rfl, rfl, ?_, fun _ => rfl⟩, rfl⟩)
  dsimp only
  split
  · intro n a ha
    unfold slotAttributes at ha
    rw [List.lookup_append] at ha
    rcases Option.or_eq_some_iff.mp ha with ha | ⟨-, ha⟩
    · exact marked_filter (fun n => !List.contains _ n) _ n a ha
    · exact .inl (.inr (lookup_marks ha))
  · exact Marked.refl _

/-- A class made a data class as its decorators say, one after another. -/
def decorated (w : World) (options : List (Option DataOptions)) (info : ClassInfo) :
    Except Fault ClassInfo :=
  options.foldlM (fun info o => (o.map fun o => makeDataClass w o info).getD (.ok info)) info

theorem remade_decorated {options : List (Option DataOptions)} :
    Gives (decorated w options info) fun i =>
      Remade info i ∧ ∀ o, some o ∈ options → i.dataFields.isSome := by
  induction options generalizing info with
  | nil => exact gives_ok.mpr ⟨Remade.refl _, fun _ h => (List.not_mem_nil h).elim⟩
  | cons o options ih =>
    unfold decorated
    rw [List.foldlM_cons, gives_bind]
    cases o with
    | none =>
      refine gives_ok.mpr (ih.mono fun i hi => ⟨hi.1, fun o ho => hi.2 o ?_⟩)
      exact (List.mem_cons.mp ho).resolve_left nofun
    | some o =>
      refine remade_makeDataClass.mono fun j hj => ih.mono fun i hi => ?_
      exact ⟨hj.1.trans hi.1, fun _ _ => hi.1.dataFields hj.2⟩

/-- The class that a header, a body and decorators make. -/
def finished (w : World) (h : Header) (body : Body) (options : List (Option DataOptions)) :
    Except Fault ClassInfo := do
  let info ← buildClass w h body
  let order := (World.orderOf? info.bases (info.bases.map w.ancestorsOf)).getD []
  decorated w options.reverse { info with ancestors := order }

theorem Made.remade {info' : ClassInfo} (h' : Made h body info) (hr : Remade info info') :
    Made h body info' where
  module := hr.module.trans h'.module
  path := hr.path.trans h'.path
  attributes := h'.attributes.trans hr.attributes
  annotations ho := hr.annotations.trans (h'.annotations ho)
  metaclass ho := hr.metaclass.trans (h'.metaclass ho)
  dict := by rw [hr.metaclass, h'.dict]

theorem made_finished {options : List (Option DataOptions)} :
    Gives (finished w h body options) (Made h body) := by
  unfold finished
  rw [gives_bind]
  refine made_buildClass.mono fun info hi => remade_decorated.mono fun made hmade => ?_
  have hstart : Made h body { info with
      ancestors := (World.orderOf? info.bases (info.bases.map w.ancestorsOf)).getD [] } :=
    ⟨hi.module, hi.path, hi.attributes, hi.annotations, hi.metaclass, hi.dict⟩
  exact hstart.remade hmade.1

namespace Likeness

variable {l : Likeness} {w' : World} {info' made : ClassInfo} {body' : Body}
  {options : List (Option DataOptions)}

theorem Infos.withAncestors (hi : l.Infos info info') (order : List ClassRef) :
    l.Infos { info with ancestors := order } { info' with ancestors := order } :=
  ⟨congrArg (fun i : ClassInfo => { i with ancestors := order }) hi.outline, hi.annotations,
    hi.attributes⟩

theorem mirrors_decorated (hw : w.outline = w'.outline) (hi : l.Infos info info')
    (hagree : ∀ o, some o ∈ options → Agreeing info.annotations info'.annotations) :
    Mirrors l.Infos (decorated w options info) (decorated w' options info') := by
  induction options generalizing info info' with
  | nil => exact mirrors_ok hi
  | cons o options ih =>
    unfold decorated
    rw [List.foldlM_cons, List.foldlM_cons]
    cases o with
    | none => exact ih hi fun o ho => hagree o (List.mem_cons_of_mem _ ho)
    | some o =>
      have hnow := hagree o (List.mem_cons_self ..)
      intro made hmade
      obtain ⟨j, hj, hrest⟩ := World.bind_eq_ok.mp hmade
      obtain ⟨j', hj', hij⟩ := mirrors_makeDataClass hw hi hnow o j hj
      have hannotations := (remade_makeDataClass j hj).1.annotations
      have hannotations' := (remade_makeDataClass j' hj').1.annotations
      obtain ⟨made', hmade', halike⟩ := ih hij
        (fun _ _ => by rw [hannotations, hannotations']; exact hnow) made hrest
      exact ⟨made', World.bind_eq_ok.mpr ⟨j', hj', hmade'⟩, halike⟩

/-- Classes made of related bodies are related, if the annotations that matter are of variables of
the class in both, or in none. -/
theorem finished_alike (hw : w.outline = w'.outline) (hb : l.Bodies body body')
    (hchecks : l.Checks body.annotations body'.annotations)
    (hagree : IsOrdinary h → h.metaclass = .model →
      Agreeing body.annotations body'.annotations)
    (hinherited : IsDict h → ∀ c ∈ h.bases, w.metaclassOf c = .typedDict →
      List.Forall₂ l.field (w.annotationsOf c) (w'.annotationsOf c))
    (hmade : finished w h body options = .ok made)
    (hdata : made.dataFields.isSome → ∀ annotations',
      List.Forall₂ l.field made.annotations annotations' →
        Agreeing made.annotations annotations') :
    ∃ made', finished w' h body' options = .ok made' ∧ l.Infos made made' := by
  obtain ⟨info, hinfo, hdecorated⟩ := World.bind_eq_ok.mp hmade
  obtain ⟨info', hinfo', hi⟩ := mirrors_buildClass hw hb hchecks hagree hinherited info hinfo
  have hremade := remade_decorated made hdecorated
  have hancestors : w'.ancestorsOf = w.ancestorsOf :=
    (World.eq_of_outline World.outline_ancestorsOf hw).symm
  have hbases : info.outline.bases = info'.outline.bases := congrArg ClassInfo.bases hi.outline
  change info.bases = info'.bases at hbases
  have horder : World.orderOf? info'.bases (info'.bases.map w'.ancestorsOf) =
      World.orderOf? info.bases (info.bases.map w.ancestorsOf) := by
    rw [hancestors, hbases]
  have hannotations : made.annotations = info.annotations := hremade.1.annotations
  obtain ⟨made', hmade', halike⟩ := mirrors_decorated hw (hi.withAncestors _) (fun o ho => by
    have hsome := hremade.2 o ho
    rw [hannotations] at hdata
    exact hdata hsome _ hi.annotations) made hdecorated
  refine ⟨made', World.bind_eq_ok.mpr ⟨info', hinfo', ?_⟩, halike⟩
  rw [horder]
  exact hmade'

end Likeness

/-! The step that makes a class. -/

theorem lifted_bind {α β : Type} (x : Except Fault α) (f : α → Except Fault β) :
    lifted (x >>= f) = lifted x >>= fun a => lifted (f a) := by
  cases x <;> rfl

theorem lifted_foldlM {α β : Type} (f : β → α → Except Fault β) (xs : List α) (b : β) :
    lifted (xs.foldlM f b) = xs.foldlM (fun b x => lifted (f b x)) b := by
  induction xs generalizing b with
  | nil => rfl
  | cons x xs ih =>
    rw [List.foldlM_cons, List.foldlM_cons, lifted_bind]
    simp only [ih]

/-- The step that adds a class to the world. -/
def adding (make : World → Except Fault ClassInfo) : Run Value := do
  let w ← get
  let made ← lifted (make w)
  let (w, c) := addClass w made
  set w
  return .cls c

/-- To make a class is to add what has been finished. -/
theorem finishClass_eq (options : List (Option DataOptions)) :
    finishClass h body options = adding fun w => finished w h body options := by
  unfold finishClass adding finished decorated
  congr 1
  funext w
  rw [lifted_bind, bind_assoc]
  congr 1
  funext info
  rw [lifted_foldlM]
  dsimp only
  congr 2
  funext info o
  cases o <;> rfl

theorem headerOf_eq_ok {s : Setting} {p : Spot} {name : String} {written : List Value}
    {words : List (String × Value)} {h : Header} (hh : headerOf w s p name written words = .ok h) :
    h.module = s.module ∧ h.path = p.pathOf name := by
  obtain ⟨entries, -, hh⟩ := World.bind_eq_ok.mp hh
  obtain ⟨metaclass, -, hh⟩ := World.bind_eq_ok.mp hh
  cases hh
  exact ⟨rfl, rfl⟩

/-- The classes that a value in the header of an enumeration stands for. -/
def writtenBases : Value → List Value
  | .tuple items => items
  | v => [v]

/-- The class of an enumeration. -/
def enumerated (s : Setting) (p : Spot) (d : EnumDefinition) (written : List Value) (w : World) :
    Except Fault ClassInfo := do
  let h ← headerOf w s p (Text.normalForm d.name) written []
  let members ← enumMembers w { d with name := h.name } h.bases
  let _ ← lookupOrder w h.bases
  return {
    module := h.module, name := h.name, path := h.path, bases := h.bases
    writtenBases := if h.replaced then written else h.bases.map .cls
    ancestors := [], metaclass := .enumeration, isProtocol := false, subscription := none
    abstracts := [], parameters := [], annotations := [], attributes := []
    members := members, dataFields := none }

theorem outline_enumerated (s : Setting) (p : Spot) (d : EnumDefinition) (written : List Value)
    (w : World) : enumerated s p d written w.outline = enumerated s p d written w := by
  unfold enumerated
  rw [outline_headerOf, outline_enumMembers, outline_lookupOrder]

/-- To make an enumeration is to add its class. -/
theorem runEnum_eq (s : Setting) (p : Spot) (d : EnumDefinition) :
    runEnum s p d = (do
      let v ← valueOfText s p ("(" ++ d.base ++ ")")
      adding (enumerated s p d (writtenBases v))) := by
  unfold runEnum adding enumerated
  congr 1
  funext v
  cases v with
  | tuple items =>
    simp only [writtenBases, lifted_bind, bind_assoc, pure_bind]
    rfl
  | _ =>
    simp only [writtenBases, lifted_bind, bind_assoc, pure_bind]
    rfl

end TypeProjection.Definition
