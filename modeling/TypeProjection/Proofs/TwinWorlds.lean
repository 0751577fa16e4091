import TypeProjection.Proofs.MadeClasses
import TypeProjection.Proofs.PendingTexts
import TypeProjection.Proofs.SteadySteps

/-!
# Twin worlds

A module runs in two worlds at once: in the first one annotations are evaluated, in the second one
they are kept as texts. The worlds have one outline, and the texts of the second one still mean the
values of the first one. Steps that make no class keep worlds twins, and so does a new class.
-/

namespace TypeProjection.Definition

open Annotation Likeness

/-- A module that is run: its name, how many classes there were before, and which expressions
annotate fields of its classes. -/
structure Course where
  module : String
  start : Nat
  annotates : Expr → Prop

variable {c : Course} {later later' : List String} {w w' w₁ w₁' : World}

/-- An annotation of a field, and its text. -/
structure PendsField (c : Course) (later : List String) (w : World)
    (locals : List (String × Value)) (a t : String × Value) : Prop where
  name : a.1 = t.1
  value : World.Pends c.annotates later [] w c.module locals a.2 t.2
  marks : World.marksField t.2 = false → World.marksField a.2 = false

/-- A name in a class, and the same with the annotation of a getter as text. -/
structure PendsEntry (c : Course) (later : List String) (w : World)
    (a t : String × Attribute) : Prop where
  name : a.1 = t.1
  value : World.PendsAttribute later w c.module a.2 t.2

/-- A class, and the same class with texts for annotations. Only the module that runs makes classes
with texts. -/
structure ClassTwin (c : Course) (later : List String) (w : World) (i : Nat)
    (info info' : ClassInfo) : Prop where
  annotations : List.Forall₂ (PendsField c later w (w.classNames (.declared i)))
    info.annotations info'.annotations
  attributes : List.Forall₂ (PendsEntry c later w) info.attributes info'.attributes
  home : info = info' ∨ c.start ≤ i ∧ info.module = c.module
  classVars : info.metaclass = .typedDict → Agreeing info.annotations info'.annotations

/-- The second world has texts where the first one has values of annotations. -/
structure Twin (c : Course) (later : List String) (w w' : World) : Prop where
  closed : w.Closed
  start : c.start ≤ w.classes.size
  outline : w.outline = w'.outline
  classes : ∀ {i info}, w.classes[i]? = some info →
    ∃ info', w'.classes[i]? = some info' ∧ ClassTwin c later w i info info'

theorem PendsField.refl (a : String × Value) {locals : List (String × Value)} :
    PendsField c later w locals a a :=
  ⟨rfl, .same _, id⟩

theorem PendsEntry.refl (a : String × Attribute) : PendsEntry c later w a a := ⟨rfl, .same _⟩

theorem Agreeing.refl (annotations : List (String × Value)) : Agreeing annotations annotations :=
  List.forall₂_same.mpr fun _ _ => ⟨rfl, rfl⟩

theorem ClassTwin.refl (i : Nat) (info : ClassInfo) : ClassTwin c later w i info info :=
  ⟨List.forall₂_same.mpr fun _ _ => PendsField.refl _,
    List.forall₂_same.mpr fun _ _ => PendsEntry.refl _, .inl rfl, fun _ => Agreeing.refl _⟩

/-- Every world is its own twin. -/
theorem Twin.refl (hw : w.Closed) (hstart : c.start ≤ w.classes.size) : Twin c later w w :=
  ⟨hw, hstart, rfl, fun hi => ⟨_, hi, ClassTwin.refl _ _⟩⟩

theorem PendsEntry.evolve {a t : String × Attribute} (h : PendsEntry c later w a t)
    (he : w.Evolves later w₁) (hw : w.Closed) (hlater : ∀ n ∈ later', n ∈ later) :
    PendsEntry c later' w₁ a t :=
  ⟨h.name, h.value.evolve he hw hlater⟩

/-- What is known of a class stays while other names are bound. -/
theorem ClassTwin.evolve {i : Nat} {info info' : ClassInfo} (h : ClassTwin c later w i info info')
    (he : w.Evolves later w₁) (hw : w.Closed) (hi : w.Valid (.declared i))
    (hlater : ∀ n ∈ later', n ∈ later) : ClassTwin c later' w₁ i info info' where
  annotations := by
    rw [he.classNames hi]
    refine h.annotations.imp fun a t hat => ⟨hat.name, ?_, hat.marks⟩
    exact hat.value.evolve he hw (World.sound_classNames hw _) (fun _ _ _ _ _ => rfl)
      (fun _ h => h) hlater fun _ h => h
  attributes := h.attributes.imp fun a t hat => hat.evolve he hw hlater
  home := h.home
  classVars := h.classVars

/-- A step that leaves the classes alone keeps worlds twins. -/
theorem Twin.evolve (h : Twin c later w w') (he : w.Evolves later w₁) (hclosed : w₁.Closed)
    (houtline : w₁.outline = w₁'.outline) (hclasses : w₁.classes = w.classes)
    (hclasses' : w₁'.classes = w'.classes) (hlater : ∀ n ∈ later', n ∈ later) :
    Twin c later' w₁ w₁' where
  closed := hclosed
  start := hclasses ▸ h.start
  outline := houtline
  classes {i info} hi := by
    rw [hclasses] at hi
    obtain ⟨info', hi', ht⟩ := h.classes hi
    rw [hclasses']
    exact ⟨info', hi', ht.evolve he h.closed (Array.getElem?_eq_some_iff.mp hi).1 hlater⟩

theorem Twin.size_eq (ht : Twin c later w w') : w'.classes.size = w.classes.size := by
  have hsize := congrArg (fun v : World => v.classes.size) ht.outline
  rw [World.outline_size, World.outline_size] at hsize
  exact hsize.symm

/-- A new class in both worlds keeps them twins. -/
theorem Twin.push {info info' : ClassInfo} (h : Twin c later w w')
    (hg : w.Grown { w with classes := w.classes.push info })
    (hclosed : World.Closed { w with classes := w.classes.push info })
    (hi : info.outline = info'.outline)
    (ht : ClassTwin c later { w with classes := w.classes.push info } w.classes.size info info') :
    Twin c later { w with classes := w.classes.push info }
      { w' with classes := w'.classes.push info' } where
  closed := hclosed
  start := by
    change _ ≤ (w.classes.push info).size
    rw [Array.size_push]
    exact Nat.le_succ_of_le h.start
  outline := by
    have hpush : ∀ (v : World) (i : ClassInfo),
        World.outline { v with classes := v.classes.push i } =
          { v.outline with classes := v.outline.classes.push i.outline } := by
      intro v i
      unfold World.outline
      rw [Array.map_push]
    rw [hpush, hpush, h.outline, hi]
  classes {i x} hx := by
    have he : w.Evolves later { w with classes := w.classes.push info } := hg.evolves rfl rfl later
    change (w.classes.push info)[i]? = some x at hx
    rw [Array.getElem?_push] at hx
    split at hx
    · next hlast =>
      cases hx
      cases hlast
      refine ⟨info', ?_, ht⟩
      change (w'.classes.push info')[w.classes.size]? = _
      rw [Array.getElem?_push, if_pos h.size_eq.symm]
    · obtain ⟨x', hx', hxx⟩ := h.classes hx
      refine ⟨x', World.getElem?_push_of_some hx', ?_⟩
      exact hxx.evolve he h.closed (Array.getElem?_eq_some_iff.mp hx).1 fun _ h => h

/-! A new class. -/

section NewClass

variable {s : Setting} {path : String} {own : String → Expr → Prop} {bound rest : List String}
  {locals : List (String × Value)} {h : Header} {body body' : Body} {info made : ClassInfo}
  {a t : String × Value}

theorem forall₂_of_mem {α β : Type} {R S : α → β → Prop} {xs : List α} {ys : List β}
    (h : List.Forall₂ R xs ys) (hRS : ∀ x ∈ xs, ∀ y, R x y → S x y) : List.Forall₂ S xs ys := by
  induction h with
  | nil => exact .nil
  | cons hxy _ ih =>
    obtain ⟨hx, hxs⟩ := List.forall_mem_cons.mp hRS
    exact .cons (hx _ hxy) (ih hxs)

theorem forall₂_and {α β : Type} {R S : α → β → Prop} {xs : List α} {ys : List β}
    (hR : List.Forall₂ R xs ys) (hS : List.Forall₂ S xs ys) :
    List.Forall₂ (fun x y => R x y ∧ S x y) xs ys := by
  induction hR with
  | nil => exact .nil
  | cons hxy _ ih =>
    cases hS with
    | cons hxy' hS => exact .cons ⟨hxy, hxy'⟩ (ih hS)

/-- What a name of a class means. -/
theorem lookup_classNames (w : World) (c : ClassRef) (n : String) :
    (w.classNames c).lookup n = ((w.attributesOf c).lookup n).map (w.attributeValue c n) :=
  lookup_map_key (w.attributeValue c) _ n

/-- What an attribute means in the body of its class. -/
def bodyValue (s : Setting) (path name : String) : Attribute → Value
  | .value v => v
  | .property _ _ => .other "<property object>"
  | .method _ => .function s.module (path ++ "." ++ name)

theorem attributeValues_eq (s : Setting) (path : String) (attributes : List (String × Attribute)) :
    attributeValues s path attributes =
      attributes.map fun a => (a.1, bodyValue s path a.1 a.2) := by
  refine List.map_congr_left fun a _ => ?_
  obtain ⟨n, a⟩ := a
  cases a <;> rfl

/-- What a name of a body means. -/
theorem lookup_attributeValues (s : Setting) (path : String)
    (attributes : List (String × Attribute)) (n : String) :
    (attributeValues s path attributes).lookup n =
      (attributes.lookup n).map (bodyValue s path n) := by
  rw [attributeValues_eq]
  exact lookup_map_key (bodyValue s path) _ n

/-- An attribute means the same in the body and in the class. -/
theorem attributeValue_eq {c : ClassRef} (hm : w.moduleOf c = s.module) (hp : w.pathOf c = path)
    (n : String) : w.attributeValue c n = bodyValue s path n := by
  funext a
  cases a with
  | method b => simp only [World.attributeValue, bodyValue, hm, hp]
  | _ => rfl

/-- A class fits the annotations in its body: under the names in them it has what the body has
bound, and no mark of a field; and what the texts of annotations seem to mark, they mark. -/
structure Fitting (own : String → Expr → Prop) (bound : List String) (info : ClassInfo) : Prop where
  keeps : ∀ {f e}, own f e → ∀ n ∈ e.names, ((info.attributes.lookup n).isSome ↔ n ∈ bound) ∧
    ∀ a, info.attributes.lookup n = some a → ¬ IsFieldMark a
  marks : ∀ {f v}, (f, v) ∈ info.annotations → ∀ {e t}, own f e → World.IsTextOf t e →
    World.marksField t = false → World.marksField v = false
  classVars : info.metaclass = .model ∨ info.metaclass = .typedDict ∨ info.dataFields.isSome →
    ∀ {f v}, (f, v) ∈ info.annotations → ∀ {e t}, own f e → World.IsTextOf t e →
      isClassVar v = isClassVar t

/-- The dictionaries with fixed keys that the module makes have nothing under the names in
annotations of fields, which they may inherit. -/
def Course.PlainDicts (c : Course) (w : World) : Prop :=
  ∀ {i info}, c.start ≤ i → w.classes[i]? = some info → info.metaclass = .typedDict →
    ∀ {e}, c.annotates e → ∀ n ∈ e.names, info.attributes.lookup n = none

/-- An annotation of a class in the making: the class has it from its body, or inherits it. -/
inductive MakesField (c : Course) (later : List String) (w : World)
    (own : String → Expr → Prop) (locals : List (String × Value)) (h : Header)
    (a t : String × Value) : Prop
  | own (hn : a.1 = t.1) (hv : World.Pends (own a.1) later [] w c.module locals a.2 t.2)
  | inherited (hd : IsDict h) (hf : PendsField c later w [] a t)
      (hc : isClassVar a.2 = isClassVar t.2)

theorem MakesField.name (hat : MakesField c later w own locals h a t) : a.1 = t.1 := by
  cases hat with
  | own hn => exact hn
  | inherited _ hf => exact hf.name

/-- How classes in the making are related. -/
def inTheMaking (c : Course) (later : List String) (w : World) (own : String → Expr → Prop)
    (locals : List (String × Value)) (h : Header) : Likeness where
  field := MakesField c later w own locals h
  entry := PendsEntry c later w
  field_name _ _ h := h.name
  entry_name _ _ h := h.name
  entry_outline _ _ h := h.value.outline
  entry_value n v := PendsEntry.refl (n, .value v)

theorem checks_inTheMaking {annotations annotations' : List (String × Value)}
    (hb : List.Forall₂ (fun a t => a.1 = t.1 ∧
      World.Pends (own a.1) later [] w c.module locals a.2 t.2) annotations annotations') :
    (inTheMaking c later w own locals h).Checks annotations annotations' := by
  refine hb.imp fun a t hat => ⟨hat.1, fun w₁ use v hv => ?_⟩
  obtain ⟨u, hu, hpends⟩ := hat.2.checkType hv
  exact ⟨u, hu, MakesField.own hat.1 hpends⟩

/-- What a dictionary inherits. -/
theorem Twin.inherited (ht : Twin c later w w') (hdicts : c.PlainDicts w) (hd : IsDict h)
    {base : ClassRef} (hbase : w.Valid base) (hmeta : w.metaclassOf base = .typedDict) :
    List.Forall₂ (inTheMaking c later w own locals h).field (w.annotationsOf base)
      (w'.annotationsOf base) := by
  cases base with
  | library m n => exact .nil
  | declared i =>
    have hi : w.classes[i]? = some w.classes[i] := Array.getElem?_eq_getElem hbase
    obtain ⟨info', hi', htwin⟩ := ht.classes hi
    have hannotations : w.annotationsOf (.declared i) = w.classes[i].annotations := by
      rw [World.annotationsOf, World.info?, hi]
      rfl
    have hannotations' : w'.annotationsOf (.declared i) = info'.annotations := by
      rw [World.annotationsOf, World.info?, hi']
      rfl
    have hmeta : w.classes[i].metaclass = .typedDict := by
      rw [World.metaclassOf, hi] at hmeta
      exact hmeta
    rw [hannotations, hannotations']
    rcases htwin.home with heq | ⟨hstart, -⟩
    · rw [← heq]
      exact List.forall₂_same.mpr fun a _ => MakesField.inherited hd (PendsField.refl a) rfl
    · refine (forall₂_and htwin.annotations (htwin.classVars hmeta)).imp fun a t hat => ?_
      refine MakesField.inherited hd ⟨hat.1.name, ?_, hat.1.marks⟩ hat.2.2
      have hstays : w.Evolves later w := (World.Grown.refl w).evolves rfl rfl later
      refine hat.1.value.evolve hstays ht.closed (World.sound_classNames ht.closed _)
        (fun e he _ n hn => ?_) (fun _ h => h) (fun _ h => h) fun _ h => h
      have hnone : (w.attributesOf (.declared i)).lookup n = none := by
        rw [World.attributesOf, hi]
        exact hdicts hstart hi hmeta he n hn
      rw [lookup_classNames, hnone]
      rfl

/-- Annotations of a class that counts are of variables of the class if their texts are. -/
theorem agreeing_of_fitting {annotations' : List (String × Value)} (hfit : Fitting own bound made)
    (hcounts : made.metaclass = .model ∨ made.metaclass = .typedDict ∨ made.dataFields.isSome)
    (hm : List.Forall₂ (MakesField c later w own locals h) made.annotations annotations') :
    Agreeing made.annotations annotations' := by
  refine forall₂_of_mem hm fun a ha t hat => ⟨hat.name, ?_⟩
  cases hat with
  | inherited _ _ hc => exact hc
  | own _ hv =>
    obtain ⟨n, v⟩ := a
    obtain ⟨m, t⟩ := t
    cases hv with
    | same => rfl
    | text hq _ _ _ _ _ ht => exact hfit.classVars hcounts ha hq ht

/-- Under the names in its annotations, a class has what its body had. -/
theorem Fitting.lookup (hfit : Fitting own bound made) (hmade : Made h body made)
    (hbound : ∀ n, (body.attributes.lookup n).isSome ↔ n ∈ bound) {f : String} {e : Expr}
    (he : own f e) {n : String} (hn : n ∈ e.names) :
    made.attributes.lookup n = body.attributes.lookup n := by
  obtain ⟨hkept, hmark⟩ := hfit.keeps he n hn
  cases hlookup : made.attributes.lookup n with
  | some a =>
    rcases hmade.attributes n a hlookup with ha | ha
    · exact (hmark a hlookup ha).elim
    · exact ha.symm
  | none =>
    rw [hlookup] at hkept
    cases hbody : body.attributes.lookup n with
    | none => rfl
    | some a =>
      have hsome := hkept.mpr ((hbound n).mp (by rw [hbody]; rfl))
      cases hsome

/-- The contents of a body, and the same with texts. The class has still to bind the names `rest`. -/
structure BodyTwin (c : Course) (later : List String) (own : String → Expr → Prop)
    (rest : List String) (w : World) (locals : List (String × Value)) (body body' : Body) :
    Prop where
  annotations : List.Forall₂ (fun a t => a.1 = t.1 ∧
    World.Pends (own a.1) later rest w c.module locals a.2 t.2) body.annotations body'.annotations
  attributes : List.Forall₂ (PendsEntry c later w) body.attributes body'.attributes

theorem BodyTwin.alike (hb : BodyTwin c later own [] w locals body body') :
    (inTheMaking c later w own locals h).Bodies body body' :=
  ⟨hb.annotations.imp fun _ _ hat => .own hat.1 hat.2, hb.attributes⟩

/-- What a class in the making is, once it is there. -/
theorem ClassTwin.of_makes {made' : ClassInfo} (hw : w.Closed) (he : w.Evolves later w₁)
    (hmade : Made h body made) (hm : h.module = c.module) (hs : s.module = c.module)
    (hl : w.SoundNames (attributeValues s h.path body.attributes))
    (hnew : w₁.classes[w.classes.size]? = some made) (hstart : c.start ≤ w.classes.size)
    (hbound : ∀ n, (body.attributes.lookup n).isSome ↔ n ∈ bound)
    (hown : ∀ f e, own f e → c.annotates e) (hdicts : c.PlainDicts w₁)
    (hfit : Fitting own bound made)
    (hi : (inTheMaking c later w own (attributeValues s h.path body.attributes) h).Infos
      made made') : ClassTwin c later w₁ w.classes.size made made' := by
  have hattributes : w₁.attributesOf (.declared w.classes.size) = made.attributes := by
    rw [World.attributesOf, hnew]
    rfl
  have hmodule : w₁.moduleOf (.declared w.classes.size) = s.module := by
    rw [World.moduleOf, hnew, hs, ← hm, ← hmade.module]
    rfl
  have hpath : w₁.pathOf (.declared w.classes.size) = h.path := by
    rw [World.pathOf, hnew, ← hmade.path]
    rfl
  refine ⟨forall₂_of_mem hi.annotations fun a ha t hat => ?_,
    hi.attributes.imp fun a t hat => PendsEntry.evolve hat he hw fun _ h => h,
    .inr ⟨hstart, hmade.module.trans hm⟩,
    fun hmeta => agreeing_of_fitting hfit (.inr (.inl hmeta)) hi.annotations⟩
  cases hat with
  | own hn hv =>
    refine ⟨hn, ?_, ?_⟩
    · refine hv.evolve he hw hl (fun e he _ n hn => ?_) (fun e => hown _ e) (fun _ h => h)
        fun _ h => h
      rw [lookup_classNames, lookup_attributeValues, attributeValue_eq hmodule hpath, hattributes,
        hfit.lookup hmade hbound he hn]
    · obtain ⟨n, v⟩ := a
      obtain ⟨m, t⟩ := t
      cases hv with
      | same => exact id
      | text hq _ _ _ _ _ ht => exact hfit.marks ha hq ht
  | inherited hd hf _ =>
    refine ⟨hf.name, ?_, hf.marks⟩
    refine hf.value.evolve he hw (fun _ h => (List.not_mem_nil h).elim) (fun e he _ n hn => ?_)
      (fun _ h => h) (fun _ h => h) fun _ h => h
    rw [lookup_classNames, hattributes, hdicts hstart hnew (hmade.dict.mpr hd) he n hn]
    rfl

/-- A class as it is added to a world. -/
def numbered (w : World) (info : ClassInfo) : ClassInfo :=
  { info with
    ancestors := .declared w.classes.size ::
      (World.orderOf? info.bases (info.bases.map w.ancestorsOf)).getD [] }

/-- A class that can be made is added. -/
theorem run_adding {make : World → Except Fault ClassInfo} (hmade : make w = .ok made) :
    (adding make).run.run w = (.ok (.cls (.declared w.classes.size)),
      { w with classes := w.classes.push (numbered w made) }) := by
  change (lifted (make w) >>= fun made => _).run.run w = _
  rw [hmade]
  rfl

theorem make_of_adding {make : World → Except Fault ClassInfo} {v : Value}
    (hrun : (adding make).run.run w = (.ok v, w₁)) : ∃ made, make w = .ok made := by
  change (lifted (make w) >>= fun made => _).run.run w = _ at hrun
  cases hmade : make w with
  | error e =>
    rw [hmade] at hrun
    cases hrun
  | ok made => exact ⟨made, rfl⟩

/-- Classes are numbered alike. -/
theorem numbered_alike {l : Likeness} {made' : ClassInfo} (ht : Twin c later w w')
    (hi : l.Infos made made') : l.Infos (numbered w made) (numbered w' made') := by
  have hancestors : w'.ancestorsOf = w.ancestorsOf :=
    (World.eq_of_outline World.outline_ancestorsOf ht.outline).symm
  have hbases : made.outline.bases = made'.outline.bases := congrArg ClassInfo.bases hi.outline
  change made.bases = made'.bases at hbases
  have horder : World.orderOf? made'.bases (made'.bases.map w'.ancestorsOf) =
      World.orderOf? made.bases (made.bases.map w.ancestorsOf) := by
    rw [hancestors, hbases]
  unfold numbered
  rw [horder, ht.size_eq]
  exact hi.withAncestors _

/-- Finishing a class in the first world can be repeated in the second one. -/
theorem Twin.finishClass (ht : Twin c later w w') (hh : SoundHeader w h) (hb : SoundBody w body)
    (hs : s.module = c.module) (hm : h.module = c.module)
    (htwin : BodyTwin c later own [] w (attributeValues s h.path body.attributes) body body')
    (hbound : ∀ n, (body.attributes.lookup n).isSome ↔ n ∈ bound)
    (hown : ∀ f e, own f e → c.annotates e) {options : List (Option DataOptions)} {v : Value}
    (hrun : (Definition.finishClass h body options).run.run w = (.ok v, w₁))
    (hdicts : c.PlainDicts w₁)
    (hfit : ∀ info, w₁.classes[w.classes.size]? = some info → info.path = h.path →
      Fitting own bound info) :
    ∃ w₁', (Definition.finishClass h body' options).run.run w' = (.ok v, w₁') ∧
      Twin c later w₁ w₁' := by
  have hleads : Leads w (Definition.finishClass h body options) World.Sound :=
    leads_finishClass hh hb
  obtain ⟨hclosed, hg, -⟩ := hleads ht.closed
  rw [finishClass_eq] at hclosed hg hrun ⊢
  obtain ⟨made, hfinished⟩ := make_of_adding hrun
  rw [run_adding hfinished] at hrun hclosed hg
  cases hrun
  have hmade := made_finished made hfinished
  have hnew : (w.classes.push (numbered w made))[w.classes.size]? = some (numbered w made) :=
    Array.getElem?_push_size
  have hnumbered : Fitting own bound (numbered w made) := hfit _ hnew hmade.path
  have hfits : Fitting own bound made :=
    ⟨hnumbered.keeps, hnumbered.marks, hnumbered.classVars⟩
  have hmodel : IsOrdinary h → h.metaclass = .model →
      Agreeing body.annotations body'.annotations := by
    intro ho hmodel
    have hsame := hmade.annotations ho
    have halike := htwin.alike (h := h).annotations
    rw [← hsame] at halike ⊢
    exact agreeing_of_fitting hfits (.inl ((hmade.metaclass ho).trans hmodel)) halike
  have hbefore : c.PlainDicts w := fun hi hx hd _ he n hn =>
    hdicts hi (World.getElem?_push_of_some hx) hd he n hn
  obtain ⟨made', hfinished', halike⟩ := finished_alike ht.outline htwin.alike
    (checks_inTheMaking htwin.annotations) hmodel
    (fun hd base hbase hmeta => ht.inherited hbefore hd (hh.bases base hbase) hmeta) hfinished
    (fun hsome _ hannotations => agreeing_of_fitting hfits (.inr (.inr hsome)) hannotations)
  refine ⟨_, ?_, ht.push hg hclosed (numbered_alike ht halike).outline ?_⟩
  · rw [run_adding hfinished', ht.size_eq]
  · have hmade' : Made h body (numbered w made) :=
      ⟨hmade.module, hmade.path, hmade.attributes, hmade.annotations, hmade.metaclass, hmade.dict⟩
    exact ClassTwin.of_makes ht.closed (hg.evolves rfl rfl later) hmade' hm hs
      (sound_attributeValues hb.attributes) hnew ht.start hbound hown hdicts hnumbered
      (numbered_alike ht halike)

end NewClass

end TypeProjection.Definition
