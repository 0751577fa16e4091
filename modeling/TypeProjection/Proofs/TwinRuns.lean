import TypeProjection.Proofs.BoundNames

/-!
# Twin runs

A module that runs with its annotations evaluated can be run with its annotations kept as texts: each
step of the first run has a counterpart in the second one, and the worlds stay twins. There is one
lemma for each kind of step; what is said of a body is said of the items that have been run.
-/

namespace TypeProjection.Definition

open Annotation

variable {α β : Type} {c : Course} {later : List String} {w w' w₁ w₁' w₂ : World}

section Rules

variable {m : Run α} {f : α → Run β} {a : α} {b : β}

theorem run_pure_ok {a' : α} : (pure a : Run α).run.run w = (.ok a', w₁) ↔ a' = a ∧ w₁ = w := by
  constructor
  · intro h
    cases h
    exact ⟨rfl, rfl⟩
  · rintro ⟨rfl, rfl⟩
    rfl

/-- A look at the world. -/
theorem run_get_bind {f : World → Run β} : ((get : Run World) >>= f).run.run w = (f w).run.run w :=
  rfl

theorem run_lifted_ok {x : Except Fault α} :
    (lifted x).run.run w = (.ok a, w₁) ↔ x = .ok a ∧ w₁ = w := by
  cases x with
  | ok a' =>
    constructor
    · intro h
      cases h
      exact ⟨rfl, rfl⟩
    · rintro ⟨h, rfl⟩
      cases h
      rfl
  | error e =>
    constructor
    · intro h
      cases h
    · rintro ⟨h, -⟩
      cases h

/-- What a step that succeeds leads to. -/
theorem Leads.of_run {P : World → α → Prop} (h : Leads w m P) (hw : w.Closed)
    (hrun : m.run.run w = (.ok a, w₁)) : w₁.Closed ∧ w.Grown w₁ ∧ P w₁ a := by
  obtain ⟨hclosed, hgrown, hP⟩ := h hw
  rw [hrun] at hclosed hgrown hP
  exact ⟨hclosed, hgrown, hP a rfl⟩

/-- The world has grown, and its modules are the same. -/
structure Onward (w w₁ : World) : Prop where
  grown : w.Grown w₁
  modules : w₁.modules = w.modules
  current : w₁.current = w.current

theorem Onward.refl (w : World) : Onward w w := ⟨World.Grown.refl w, rfl, rfl⟩

theorem Onward.trans (h : Onward w w₁) (h' : Onward w₁ w₂) : Onward w w₂ :=
  ⟨h.grown.trans h'.grown, h'.modules.trans h.modules, h'.current.trans h.current⟩

theorem Onward.evolves (h : Onward w w₁) (later : List String) : w.Evolves later w₁ :=
  h.grown.evolves h.modules h.current later

/-- A step that makes no classes is repeated. -/
theorem Twin.steady {P : World → α → Prop} (ht : Twin c later w w') (hm : Steady m)
    (hl : Leads w m P) (hrun : m.run.run w = (.ok a, w₁)) :
    ∃ w₁', m.run.run w' = (.ok a, w₁') ∧ Twin c later w₁ w₁' ∧ Onward w w₁ ∧ P w₁ a := by
  obtain ⟨hclosed, hgrown, hP⟩ := hl.of_run ht.closed hrun
  obtain ⟨hresult, houtline, hleft, hright⟩ := hm w w' ht.outline
  rw [hrun] at hresult houtline hleft
  rcases hrun' : m.run.run w' with ⟨r, w₁'⟩
  rw [hrun'] at hresult houtline hright
  cases (hresult : r = .ok a)
  have ho : Onward w w₁ := ⟨hgrown, hleft.modules, hleft.current⟩
  exact ⟨w₁', rfl, ht.evolve (ho.evolves later) hclosed houtline hleft.classes hright.classes
    fun _ h => h, ho, hP⟩

end Rules

/-- The same, with annotations kept as texts. -/
def Setting.late (s : Setting) : Setting := { s with postponed := true }

/-! Bodies. -/

section Bodies

variable {s : Setting} {d : ClassDefinition} {path : List String} {before rest : List BodyItem}
  {item : BodyItem} {body body' : Body} {name : String} {a a' : Attribute} {v t : Value}

/-- The names of a body as values. -/
def namesIn (s : Setting) (path : List String) (body : Body) : List (String × Value) :=
  attributeValues s (String.intercalate "." path) body.attributes

theorem lookup_namesIn (n : String) : (namesIn s path body).lookup n =
    (body.attributes.lookup n).map (bodyValue s (String.intercalate "." path) n) :=
  lookup_attributeValues s _ _ n

/-- Both runs have come to the same place in the body of a class. -/
structure Halfway (c : Course) (later : List String) (s : Setting) (d : ClassDefinition)
    (path : List String) (before rest : List BodyItem) (w w' : World) (body body' : Body) :
    Prop where
  worlds : Twin c later w w'
  sound : SoundBody w body
  texts : BodyTwin c later d.Annotates (rest.flatMap (BodyItem.bound d.owner)) w
    (namesIn s path body) body body'
  bound : ∀ n, (body.attributes.lookup n).isSome ↔
    n ∈ before.flatMap (BodyItem.bound d.owner)

theorem Halfway.soundNames (h : Halfway c later s d path before rest w w' body body') :
    w.SoundNames (namesIn s path body) :=
  sound_attributeValues h.sound.attributes

/-- The names of both bodies mean the same. -/
theorem Halfway.namesIn_eq (h : Halfway c later s d path before rest w w' body body') :
    namesIn s path body' = namesIn s path body := by
  have hvalues : ∀ {xs ys : List (String × Attribute)},
      List.Forall₂ (PendsEntry c later w) xs ys →
        attributeValues s (String.intercalate "." path) ys =
          attributeValues s (String.intercalate "." path) xs := by
    intro xs ys hxy
    rw [attributeValues_eq, attributeValues_eq]
    induction hxy with
    | nil => rfl
    | @cons x y xs ys hxy _ ih =>
      obtain ⟨hname, hvalue⟩ := hxy
      obtain ⟨n, a⟩ := x
      obtain ⟨m, t⟩ := y
      cases hname
      have hsame : bodyValue s (String.intercalate "." path) n t =
          bodyValue s (String.intercalate "." path) n a := by
        cases hvalue <;> rfl
      rw [List.map_cons, List.map_cons, ih]
      exact congrArg (fun v => (n, v) :: _) hsame
  exact hvalues h.texts.attributes

/-- A step in the body that leaves the body as it is. -/
theorem Halfway.onward (h : Halfway c later s d path before rest w w' body body')
    (ho : Onward w w₁) (ht : Twin c later w₁ w₁') :
    Halfway c later s d path before rest w₁ w₁' body body' where
  worlds := ht
  sound := h.sound.grow h.worlds.closed ho.grown
  texts :=
    { annotations := h.texts.annotations.imp fun _ _ hat => ⟨hat.1,
        hat.2.evolve (ho.evolves later) h.worlds.closed h.soundNames (fun _ _ _ _ _ => rfl)
          (fun _ h => h) (fun _ h => h) fun _ h => h⟩
      attributes := h.texts.attributes.imp fun _ _ hat =>
        hat.evolve (ho.evolves later) h.worlds.closed fun _ h => h }
  bound := h.bound

/-- An item that binds no name. -/
theorem Halfway.skip (h : Halfway c later s d path before (item :: rest) w w' body body')
    (hbound : item.bound d.owner = []) :
    Halfway c later s d path (before ++ [item]) rest w w' body body' where
  worlds := h.worlds
  sound := h.sound
  texts := by
    have htexts := h.texts
    rw [List.flatMap_cons, hbound] at htexts
    exact htexts
  bound n := by
    rw [List.flatMap_append, List.flatMap_singleton, hbound, List.append_nil]
    exact h.bound n

/-- An item that binds a name. -/
theorem Halfway.put (h : Halfway c later s d path before (item :: rest) w w' body body')
    (name : String) (hbound : item.bound d.owner = [name]) (ha : w.SoundAttribute a)
    (hat : World.PendsAttribute later w c.module a a') :
    Halfway c later s d path (before ++ [item]) rest w w' (body.put name a)
      (body'.put name a') where
  worlds := h.worlds
  sound := h.sound.put ha
  texts := by
    have hstays : w.Evolves later w := (Onward.refl w).evolves later
    constructor
    · refine h.texts.annotations.imp fun x t hxt => ⟨hxt.1, ?_⟩
      refine hxt.2.evolve hstays h.worlds.closed h.soundNames (fun e _ hrest n hn => ?_)
        (fun _ h => h) (fun _ h => h) fun n hn => ?_
      · have hne : n ≠ name := by
          rintro rfl
          refine hrest n hn ?_
          rw [List.flatMap_cons, hbound]
          exact List.mem_cons_self ..
        rw [lookup_namesIn, lookup_namesIn]
        unfold Body.put
        rw [lookup_putPair, if_neg hne]
      · rw [List.flatMap_cons]
        exact List.mem_append_right _ hn
    · exact forall₂_putPair h.texts.attributes (fun _ _ hxy => hxy.name) fun _ _ => ⟨rfl, hat⟩
  bound n := by
    change ((putPair name a body.attributes).lookup n).isSome ↔ _
    rw [List.flatMap_append, List.flatMap_singleton, hbound, lookup_putPair,
      List.mem_append, List.mem_singleton, ← h.bound n]
    split
    · next hn => simp [hn]
    · next hn => simp [hn]

/-- An annotation and its text are put down. -/
theorem Halfway.annotate (h : Halfway c later s d path before rest w w' body body')
    (hv : w.Sound v) (hvt : World.Pends (d.Annotates name) later
      (rest.flatMap (BodyItem.bound d.owner)) w c.module (namesIn s path body) v t) :
    Halfway c later s d path before rest w w' ⟨putPair name v body.annotations, body.attributes⟩
      ⟨putPair name t body'.annotations, body'.attributes⟩ where
  worlds := h.worlds
  sound := ⟨World.soundNames_putPair h.sound.annotations name hv, h.sound.attributes⟩
  texts := by
    refine ⟨forall₂_putPair h.texts.annotations (fun _ _ hxy => hxy.1) fun n hn => ?_,
      h.texts.attributes⟩
    cases hn
    exact ⟨rfl, hvt⟩
  bound := h.bound

end Bodies

/-! Annotations. -/

section Annotations

variable {definitions : List ModuleItem} {s : Setting} {final : World} {d : ClassDefinition}
  {path : List String} {before rest : List BodyItem} {item : BodyItem} {body body' : Body}
  {p p' : Spot} {text written : String} {v : Value} {e : Expr} {a : Attribute}

/-- The world that the first run ends in suits the sources. -/
structure Suits (definitions : List ModuleItem) (c : Course) (s : Setting) (final : World) :
    Prop where
  eager : s.postponed = false
  module : s.module = c.module
  source : SinglyBound definitions
  getters : GettersApart definitions
  annotates : ∀ {e}, AnnotatesIn definitions e → c.annotates e
  dicts : c.PlainDicts final
  fitting : ∀ {later path d}, ClassIn definitions later path d → ∀ {i info}, c.start ≤ i →
    final.classes[i]? = some info → info.path = String.intercalate "." path →
      Fitting d.Annotates (d.body.flatMap (BodyItem.bound d.owner)) info

theorem run_sourceExpression : (sourceExpression text).run.run w = (.ok e, w₁) ↔
    Expr.ofSource? text = some e ∧ w₁ = w := by
  unfold sourceExpression
  cases Expr.ofSource? text with
  | none =>
    constructor
    · intro h
      cases h
    · rintro ⟨h, -⟩
      cases h
  | some e' =>
    rw [Option.some_inj]
    exact run_pure_ok.trans (and_congr_left' eq_comm)

/-- An annotation is evaluated. -/
theorem run_annotationAt (hs : s.postponed = false)
    (hrun : (annotationAt s p text).run.run w = (.ok v, w₁)) :
    w₁ = w ∧ ∃ e, Expr.ofSource? text = some e ∧
      w.evaluate ⟨[p.locals, w.namesOf s.module], p.owner⟩ e = .ok v := by
  obtain ⟨e, w₂, hread, hvalue⟩ := run_bind_ok.mp hrun
  obtain ⟨he, rfl⟩ := run_sourceExpression.mp hread
  rw [hs, if_neg Bool.false_ne_true] at hvalue
  have hlifted : (lifted (w₂.evaluate ⟨[p.locals, w₂.namesOf s.module], p.owner⟩ e)).run.run w₂ =
      (.ok v, w₁) := hvalue
  obtain ⟨hv, rfl⟩ := run_lifted_ok.mp hlifted
  exact ⟨rfl, e, he, hv⟩

/-- An annotation is kept as its text. -/
theorem run_annotationAt_late (he : Expr.ofSource? text = some e) :
    (annotationAt s.late p text).run.run w = (.ok (.str e.text), w) :=
  run_bind_ok.mpr ⟨e, w, run_sourceExpression.mpr ⟨he, rfl⟩, rfl⟩

variable (hc : Suits definitions c s final) (hd : ClassIn definitions later path d)
include hc hd

/-- The text of an annotation means what the annotation meant where it stood. -/
theorem Suits.pends {locals locals' : List (String × Value)} {Q : Expr → Prop}
    {bound : List String} (hw : w.Closed) (hl : w.SoundNames locals) (hitem : item ∈ d.body)
    (ha : item.annotation? = some text) (he : Expr.ofSource? text = some e)
    (hv : w.evaluate ⟨[locals, w.namesOf s.module], some d.owner⟩ e = .ok v) (hQ : Q e)
    (hbound : ∀ n ∈ e.names, n ∉ bound)
    (hlocals : ∀ n ∈ e.names, locals'.lookup n = locals.lookup n) :
    World.Pends Q later bound w c.module locals' v (.str e.text) := by
  have hwords := hc.source.module hd hitem ha he
  rw [hc.module] at hv
  have hpublic : ∀ n ∈ e.words, (Scope.mk [] (some d.owner)).known n = n := fun n hn =>
    (hwords n hn).2
  have hwrites : World.Writes e.text e := (hc.source.written hd hitem ha he).elim Expr.Plain.writes id
  exact .text hQ hwrites (fun n hn => (hwords n hn).1) hbound
    (World.evaluate_outside hw hl hpublic hlocals hv) (.inl rfl) (.inl rfl)

/-- The annotation of a field. -/
theorem Halfway.runAnnotated {value : Option String} {before' : List BodyItem}
    (hbody : d.body = before ++ .field written text value :: rest)
    (h : Halfway c later s d path before' rest w w' body body') (hl : p.locals = namesIn s path body)
    (ho : p.owner = some d.owner) (hrun : (annotationAt s p text).run.run w = (.ok v, w₁)) :
    w₁ = w ∧ ∃ t, (annotationAt s.late p' text).run.run w' = (.ok t, w') ∧
      Halfway c later s d path before' rest w w'
        ⟨putPair (nameIn d.owner written) v body.annotations, body.attributes⟩
        ⟨putPair (nameIn d.owner written) t body'.annotations, body'.attributes⟩ := by
  have hsound := ((leads_annotationAt (hl ▸ h.soundNames)).of_run h.worlds.closed hrun).2.2
  obtain ⟨rfl, e, he, hv⟩ := run_annotationAt hc.eager hrun
  rw [hl, ho] at hv
  have hitem : BodyItem.field written text value ∈ d.body := by
    rw [hbody]
    exact List.mem_append_right _ (List.mem_cons_self ..)
  refine ⟨rfl, _, run_annotationAt_late he, h.annotate hsound ?_⟩
  exact hc.pends hd h.worlds.closed h.soundNames hitem rfl he hv ⟨_, _, _, hitem, rfl, he⟩
    (hc.source.fields hd hbody he) fun _ _ => rfl

/-- A getter with its annotation, which knows nothing of the body. -/
theorem Halfway.runProperty {kind : PropertyKind} {returns : Option String}
    (hbody : d.body = before ++ .property kind written returns :: rest)
    (h : Halfway c later s d path before (.property kind written returns :: rest) w w' body body')
    (hl : p.locals = namesIn s path body) (ho : p.owner = some d.owner)
    (hrun : (Definition.runProperty s p kind returns).run.run w = (.ok a, w₁)) :
    w₁ = w ∧ ∃ a', (Definition.runProperty s.late p' kind returns).run.run w' = (.ok a', w') ∧
      w.SoundAttribute a ∧ World.PendsAttribute later w c.module a a' := by
  have hsound := ((leads_runProperty (hl ▸ h.soundNames)).of_run h.worlds.closed hrun).2.2
  cases returns with
  | none =>
    obtain ⟨rfl, rfl⟩ := run_pure_ok.mp hrun
    have hlate : (Definition.runProperty s.late p' kind none).run.run w' =
        (.ok (.property (some ⟨none, s.module⟩) (kind == .abstract)), w') := rfl
    exact ⟨rfl, _, hlate, hsound, .same _⟩
  | some text =>
    obtain ⟨v, w₂, hannotation, hdone⟩ := run_bind_ok.mp hrun
    rw [pure_bind] at hdone
    obtain ⟨rfl, rfl⟩ := run_pure_ok.mp hdone
    obtain ⟨rfl, e, he, hv⟩ := run_annotationAt hc.eager hannotation
    rw [hl, ho] at hv
    have hitem : BodyItem.property kind written (some text) ∈ d.body := by
      rw [hbody]
      exact List.mem_append_right _ (List.mem_cons_self ..)
    have hlate : (Definition.runProperty s.late p' kind (some text)).run.run w' =
        (.ok (.property (some ⟨some (.str e.text), s.module⟩) (kind == .abstract)), w') :=
      run_bind_ok.mpr ⟨_, _, run_annotationAt_late he, rfl⟩
    refine ⟨rfl, _, hlate, hsound, ?_⟩
    rw [hc.module]
    refine .property (hc.pends hd h.worlds.closed h.soundNames hitem rfl he hv trivial
      (fun _ _ hn => List.not_mem_nil hn) fun n hn => ?_)
    -- nothing in the body so far has a name that the annotation uses
    have hunbound := hc.getters hd hbody he n hn
    rw [lookup_namesIn]
    cases hlookup : body.attributes.lookup n with
    | none => rfl
    | some a => exact (hunbound ((h.bound n).mp (by rw [hlookup]; rfl))).elim

end Annotations

/-! Classes. -/

section Classes

variable {definitions : List ModuleItem} {s : Setting} {final : World} {p : Spot} {text : String}
  {v : Value}

/-- Only annotations depend on whether they are kept as texts. -/
theorem late_runEnum : Definition.runEnum s.late p = Definition.runEnum s p := rfl

theorem run_valueOfText (hrun : (valueOfText s p text).run.run w = (.ok v, w₁)) : w₁ = w := by
  obtain ⟨e, w₂, hread, hvalue⟩ := run_bind_ok.mp hrun
  obtain ⟨-, rfl⟩ := run_sourceExpression.mp hread
  have hlifted : (lifted (w₂.evaluate ⟨[p.locals, w₂.namesOf s.module], p.owner⟩ e)).run.run w₂ =
      (.ok v, w₁) := hvalue
  exact (run_lifted_ok.mp hlifted).2

/-- An enumeration has no annotations. -/
theorem Twin.runEnum {d : EnumDefinition} (ht : Twin c later w w') (hp : w.SoundNames p.locals)
    (hrun : (Definition.runEnum s p d).run.run w = (.ok v, w₁)) :
    ∃ w₁', (Definition.runEnum s.late p d).run.run w' = (.ok v, w₁') ∧ Twin c later w₁ w₁' ∧
      Onward w w₁ := by
  obtain ⟨hclosed, hgrown, -⟩ := (leads_runEnum hp).of_run ht.closed hrun
  rw [late_runEnum]
  rw [runEnum_eq] at hrun ⊢
  obtain ⟨u, w₂, hbases, hadd⟩ := run_bind_ok.mp hrun
  cases run_valueOfText hbases
  obtain ⟨w₂', hbases', -⟩ := ht.steady steady_valueOfText (leads_valueOfText hp) hbases
  cases run_valueOfText hbases'
  obtain ⟨made, hmade⟩ := make_of_adding hadd
  rw [run_adding hmade] at hadd
  cases hadd
  have hmade' : enumerated s p d (writtenBases u) w' = .ok made := by
    rw [← World.eq_of_outline (outline_enumerated s p d _) ht.outline]
    exact hmade
  have hnumbered : numbered w' made = numbered w made := by
    unfold numbered
    rw [ht.size_eq, World.eq_of_outline World.outline_ancestorsOf ht.outline]
  refine ⟨_, run_bind_ok.mpr ⟨u, w', hbases', ?_⟩,
    ht.push hgrown hclosed rfl (ClassTwin.refl _ _), hgrown, rfl, rfl⟩
  rw [run_adding hmade', hnumbered, ht.size_eq]

/-- Finishing a class leaves the modules as they are. -/
theorem onward_finishClass {h : Header} {body : Body} {options : List (Option DataOptions)}
    (hw : w.Closed) (hh : SoundHeader w h) (hb : SoundBody w body)
    (hrun : (finishClass h body options).run.run w = (.ok v, w₁)) : Onward w w₁ := by
  have hgrown := ((leads_finishClass hh hb).of_run hw hrun).2.1
  rw [finishClass_eq] at hrun
  obtain ⟨made, hmade⟩ := make_of_adding hrun
  rw [run_adding hmade] at hrun
  cases hrun
  exact ⟨hgrown, rfl, rfl⟩

theorem Course.PlainDicts.of_grown (h : c.PlainDicts w₁) (hg : w.Grown w₁) : c.PlainDicts w :=
  fun hi hinfo => h hi (hg.classes hinfo)

/-- Before anything of a body has been run. -/
theorem Halfway.start {d : ClassDefinition} {path : List String} (ht : Twin c later w w') :
    Halfway c later s d path [] d.body w w' ⟨[], []⟩ ⟨[], []⟩ where
  worlds := ht
  sound := ⟨fun _ h => (List.not_mem_nil h).elim, fun _ h => (List.not_mem_nil h).elim⟩
  texts := ⟨.nil, .nil⟩
  bound _ := ⟨fun h => (nomatch h), fun h => (List.not_mem_nil h).elim⟩

/-- A class that the first run makes, the second one makes too. -/
def RepeatsClass (definitions : List ModuleItem) (c : Course) (s : Setting) (final : World)
    (d : ClassDefinition) : Prop :=
  ∀ {later : List String} {p : Spot} {w w' w₁ : World} {v : Value},
    ClassIn definitions later (p.path ++ [d.owner]) d → Twin c later w w' →
    w.SoundNames p.locals → (runClass s p d).run.run w = (.ok v, w₁) → w₁.Grown final →
    ∃ w₁', (runClass s.late p d).run.run w' = (.ok v, w₁') ∧ Twin c later w₁ w₁' ∧ Onward w w₁

/-- The rest of a body that the first run comes through, the second one comes through too. -/
def RepeatsBody (definitions : List ModuleItem) (c : Course) (s : Setting) (final : World)
    (items : List BodyItem) : Prop :=
  ∀ {later : List String} {d : ClassDefinition} {before : List BodyItem} {p : Spot}
    {w w' w₁ : World} {body body' body₁ : Body}, ClassIn definitions later p.path d →
    d.body = before ++ items → p.owner = some d.owner →
    Halfway c later s d p.path before items w w' body body' →
    (runBody s p body items).run.run w = (.ok body₁, w₁) → w₁.Grown final →
    ∃ body₁' w₁', (runBody s.late p body' items).run.run w' = (.ok body₁', w₁') ∧
      Halfway c later s d p.path d.body [] w₁ w₁' body₁ body₁' ∧ Onward w w₁

/-- An item of a body that the first run comes through, the second one comes through too. -/
def RepeatsItem (definitions : List ModuleItem) (c : Course) (s : Setting) (final : World)
    (item : BodyItem) : Prop :=
  ∀ {later : List String} {d : ClassDefinition} {before rest : List BodyItem} {p : Spot}
    {w w' w₁ : World} {body body' body₁ : Body}, ClassIn definitions later p.path d →
    d.body = before ++ item :: rest → p.owner = some d.owner →
    p.locals = namesIn s p.path body →
    Halfway c later s d p.path before (item :: rest) w w' body body' →
    (runItem s p body item).run.run w = (.ok body₁, w₁) → w₁.Grown final →
    ∃ body₁' w₁', (runItem s.late p body' item).run.run w' = (.ok body₁', w₁') ∧
      Halfway c later s d p.path (before ++ [item]) rest w₁ w₁' body₁ body₁' ∧ Onward w w₁

/-- A name as the body of a class knows it. -/
theorem known_eq {owner : String} (ho : p.owner = some owner) (written : String) :
    p.known written = nameIn owner written := by
  unfold Spot.known
  rw [ho]
  rfl

section Items

variable {written : String} {d : ClassDefinition} {items : List BodyItem} {item : BodyItem}

theorem repeats_field (hc : Suits definitions c s final) :
    RepeatsItem definitions c s final (.field written text none) := by
  intro later d before rest p w w' w₁ body body' body₁ hd hsplit ho hl h hrun _
  rw [runItem, pure_bind] at hrun ⊢
  obtain ⟨v, w₂, hannotation, hdone⟩ := run_bind_ok.mp hrun
  obtain ⟨rfl, rfl⟩ := run_pure_ok.mp hdone
  obtain ⟨rfl, t, hlate, hnext⟩ :=
    (h.skip rfl).runAnnotated hc hd hsplit hl ho hannotation
  rw [← known_eq ho] at hnext
  exact ⟨_, w', run_bind_ok.mpr ⟨t, w', hlate, rfl⟩, hnext, .refl _⟩

/-- The value of a field is there before its annotation is looked at. -/
theorem repeats_field_value {value : String} (hc : Suits definitions c s final) :
    RepeatsItem definitions c s final (.field written text (some value)) := by
  intro later d before rest p w w' w₁ body body' body₁ hd hsplit ho hl h hrun _
  rw [runItem] at hrun ⊢
  obtain ⟨a, w₂, hassigned, hrest⟩ := run_bind_ok.mp hrun
  rw [pure_bind] at hrest
  obtain ⟨v, w₃, hannotation, hdone⟩ := run_bind_ok.mp hrest
  obtain ⟨rfl, rfl⟩ := run_pure_ok.mp hdone
  have hp : w.SoundNames p.locals := hl ▸ h.soundNames
  obtain ⟨w₂', hassigned', ht, honward, ha⟩ :=
    h.worlds.steady steady_assignedAttribute (leads_assignedAttribute hp) hassigned
  have hput := (h.onward honward ht).put (nameIn d.owner written) rfl ha (.same a)
  rw [← known_eq ho] at hput
  obtain ⟨rfl, t, hlate, hnext⟩ := hput.runAnnotated hc hd
    (p := ⟨namesIn s p.path (body.put (p.known written) a), p.owner, p.path⟩) hsplit rfl ho
    hannotation
  rw [← known_eq ho] at hnext
  refine ⟨_, _, run_bind_ok.mpr ⟨a, w₂', hassigned', ?_⟩, hnext, honward⟩
  rw [pure_bind]
  exact run_bind_ok.mpr ⟨t, w₂', hlate, rfl⟩

theorem repeats_assignment : RepeatsItem definitions c s final (.assignment written text) := by
  intro later d before rest p w w' w₁ body body' body₁ hd hsplit ho hl h hrun _
  rw [runItem] at hrun ⊢
  obtain ⟨a, w₂, hassigned, hdone⟩ := run_bind_ok.mp hrun
  obtain ⟨rfl, rfl⟩ := run_pure_ok.mp hdone
  have hp : w.SoundNames p.locals := hl ▸ h.soundNames
  obtain ⟨w₂', hassigned', ht, honward, ha⟩ :=
    h.worlds.steady steady_assignedAttribute (leads_assignedAttribute hp) hassigned
  have hput := (h.onward honward ht).put (nameIn d.owner written) rfl ha (.same a)
  rw [← known_eq ho] at hput
  exact ⟨_, _, run_bind_ok.mpr ⟨a, w₂', hassigned', rfl⟩, hput, honward⟩

theorem repeats_property {kind : PropertyKind} {returns : Option String}
    (hc : Suits definitions c s final) :
    RepeatsItem definitions c s final (.property kind written returns) := by
  intro later d before rest p w w' w₁ body body' body₁ hd hsplit ho hl h hrun _
  rw [runItem] at hrun ⊢
  obtain ⟨a, w₂, hproperty, hdone⟩ := run_bind_ok.mp hrun
  obtain ⟨rfl, rfl⟩ := run_pure_ok.mp hdone
  obtain ⟨rfl, a', hlate, ha, haa'⟩ := h.runProperty hc hd hsplit hl ho hproperty
  have hput := h.put (nameIn d.owner written) rfl ha haa'
  rw [← known_eq ho] at hput
  exact ⟨_, w', run_bind_ok.mpr ⟨a', w', hlate, rfl⟩, hput, .refl _⟩

theorem repeats_writeOnly : RepeatsItem definitions c s final (.writeOnly written) := by
  intro later d before rest p w w' w₁ body body' body₁ hd hsplit ho hl h hrun _
  rw [runItem] at hrun ⊢
  obtain ⟨rfl, rfl⟩ := run_pure_ok.mp hrun
  have hput := h.put (nameIn d.owner written) rfl (a := .property none false) trivial
    (.same _)
  rw [← known_eq ho] at hput
  exact ⟨_, w', rfl, hput, .refl _⟩

theorem repeats_method {isAbstract : Bool} :
    RepeatsItem definitions c s final (.method written isAbstract) := by
  intro later d before rest p w w' w₁ body body' body₁ hd hsplit ho hl h hrun _
  rw [runItem] at hrun ⊢
  obtain ⟨rfl, rfl⟩ := run_pure_ok.mp hrun
  have hput := h.put (nameIn d.owner written) rfl (a := .method isAbstract) trivial
    (.same _)
  rw [← known_eq ho] at hput
  exact ⟨_, w', rfl, hput, .refl _⟩

theorem repeats_enum {e : EnumDefinition} : RepeatsItem definitions c s final (.enum e) := by
  intro later d before rest p w w' w₁ body body' body₁ hd hsplit ho hl h hrun _
  rw [runItem] at hrun ⊢
  obtain ⟨v, w₂, henum, hdone⟩ := run_bind_ok.mp hrun
  obtain ⟨rfl, rfl⟩ := run_pure_ok.mp hdone
  have hp : w.SoundNames p.locals := hl ▸ h.soundNames
  have hv := ((leads_runEnum hp).of_run h.worlds.closed henum).2.2
  obtain ⟨w₂', henum', ht, honward⟩ := h.worlds.runEnum hp henum
  have hput := (h.onward honward ht).put (nameIn d.owner e.name) rfl
    (a := .value v) hv (.same _)
  rw [← known_eq ho] at hput
  exact ⟨_, _, run_bind_ok.mpr ⟨v, w₂', henum', rfl⟩, hput, honward⟩

/-- A nested class. -/
theorem repeats_nested {e : ClassDefinition} (he : RepeatsClass definitions c s final e) :
    RepeatsItem definitions c s final (.cls e) := by
  intro later d before rest p w w' w₁ body body' body₁ hd hsplit ho hl h hrun hfinal
  rw [runItem] at hrun ⊢
  obtain ⟨v, w₂, hclass, hdone⟩ := run_bind_ok.mp hrun
  obtain ⟨rfl, rfl⟩ := run_pure_ok.mp hdone
  have hp : w.SoundNames p.locals := hl ▸ h.soundNames
  have hv := ((leads_runClass hp e).of_run h.worlds.closed hclass).2.2
  have hmem : BodyItem.cls e ∈ d.body := by
    rw [hsplit]
    exact List.mem_append_right _ (List.mem_cons_self ..)
  obtain ⟨w₂', hclass', ht, honward⟩ := he (hd.inner hmem) h.worlds hp hclass hfinal
  have hput := (h.onward honward ht).put (nameIn d.owner e.name) rfl
    (a := .value v) hv (.same _)
  rw [← known_eq ho] at hput
  exact ⟨_, _, run_bind_ok.mpr ⟨v, w₂', hclass', rfl⟩, hput, honward⟩

theorem repeats_nil : RepeatsBody definitions c s final [] := by
  intro later d before p w w' w₁ body body' body₁ hd hsplit ho h hrun _
  rw [runBody] at hrun ⊢
  obtain ⟨rfl, rfl⟩ := run_pure_ok.mp hrun
  rw [List.append_nil] at hsplit
  exact ⟨body', w', rfl, hsplit ▸ h, .refl _⟩

theorem repeats_cons (hitem : RepeatsItem definitions c s final item)
    (hitems : RepeatsBody definitions c s final items) :
    RepeatsBody definitions c s final (item :: items) := by
  intro later d before p w w' w₁ body body' body₁ hd hsplit ho h hrun hfinal
  rw [runBody] at hrun ⊢
  obtain ⟨body₂, w₂, hitem₂, hrest⟩ := run_bind_ok.mp hrun
  have hfirst : (runItem s ⟨namesIn s p.path body, p.owner, p.path⟩ body item).run.run w =
      (.ok body₂, w₂) := hitem₂
  obtain ⟨hclosed, -, hsound⟩ :=
    (leads_runItem h.soundNames h.sound item).of_run h.worlds.closed hfirst
  have hgrown := ((leads_runBody hsound items).of_run hclosed hrest).2.1
  obtain ⟨body₂', w₂', hfirst', hnext, honward⟩ :=
    hitem (p := ⟨namesIn s p.path body, p.owner, p.path⟩) hd hsplit ho rfl h hfirst
      (hgrown.trans hfinal)
  obtain ⟨body₁', w₁', hrest', hdone, honward'⟩ :=
    hitems hd (by rw [hsplit, List.append_assoc]; rfl) ho hnext hrest hfinal
  refine ⟨body₁', w₁', run_bind_ok.mpr ⟨body₂', w₂', ?_, hrest'⟩, hdone, honward.trans honward'⟩
  have hnames : attributeValues s.late (String.intercalate "." p.path) body'.attributes =
      namesIn s p.path body := h.namesIn_eq
  rw [hnames]
  exact hfirst'

/-- A class whose body is run. -/
theorem repeats_mk {bases decorators : List String} {header : String}
    (hc : Suits definitions c s final) (hitems : RepeatsBody definitions c s final items) :
    RepeatsClass definitions c s final (.mk written bases decorators header items) := by
  intro later p w w' w₁ v hd ht hp hrun hfinal
  rw [runClass] at hrun ⊢
  obtain ⟨options, w₂, hoptions, hrun₂⟩ := run_bind_ok.mp hrun
  obtain ⟨values, w₃, hvalues, hrun₃⟩ := run_bind_ok.mp hrun₂
  obtain ⟨words, w₄, hwords, hrun₄⟩ := run_bind_ok.mp hrun₃
  rw [run_get_bind] at hrun₄
  obtain ⟨h, w₅, hlifted, hrun₅⟩ := run_bind_ok.mp hrun₄
  obtain ⟨body, w₆, hbody, hfinish⟩ := run_bind_ok.mp hrun₅
  obtain ⟨hheader, rfl⟩ := run_lifted_ok.mp hlifted
  -- The header is made of steps that make no classes.
  obtain ⟨w₂', hoptions', ht₂, ho₂, -⟩ := ht.steady (steady_mapM (fun _ => steady_dataOptions) _)
    (leads_mapM (Q := fun _ _ => True) (fun _ _ _ => trivial) fun _ _ _ _ hg =>
      leads_dataOptions (hg.soundNames ht.closed hp)) hoptions
  have hp₂ := ho₂.grown.soundNames ht.closed hp
  obtain ⟨w₃', hvalues', ht₃, ho₃, hsound⟩ := ht₂.steady
    (steady_mapM (fun _ => steady_valueOfText) _) (leads_texts hp₂ bases) hvalues
  have hp₃ := ho₃.grown.soundNames ht₂.closed hp₂
  obtain ⟨w₄', hwords', ht₄, ho₄, -⟩ := ht₃.steady steady_headerWords (leads_headerWords hp₃) hwords
  have hh := gives_headerOf (fun v hv => ho₄.grown.sound ht₃.closed (hsound v hv)) h hheader
  have hheader' : headerOf w₄' s.late p (Text.normalForm written) values words = .ok h := by
    rw [← hheader, World.eq_of_outline outline_headerOf ht₄.outline]
    rfl
  obtain ⟨hmodule, hpath⟩ := headerOf_eq_ok hheader
  -- Then the body is run, and the class is made of both.
  have hstart : Halfway c later s (.mk written bases decorators header items)
      (p.path ++ [Text.normalForm written]) [] items w₅ w₄' ⟨[], []⟩ ⟨[], []⟩ := .start ht₄
  obtain ⟨hclosed, hgrown, hsoundBody⟩ :=
    (leads_runBody hstart.sound items).of_run ht₄.closed hbody
  have hh₆ := hh.grow hgrown ht₄.closed
  have honward := onward_finishClass hclosed hh₆ hsoundBody hfinish
  obtain ⟨body', w₆', hbody', hend, ho₆⟩ :=
    hitems hd rfl rfl hstart hbody (honward.grown.trans hfinal)
  obtain ⟨w₁', hfinish', ht₁⟩ := hend.worlds.finishClass (s := s) hh₆ hsoundBody hc.module
    (hmodule.trans hc.module) (by rw [hpath]; exact hend.texts) hend.bound
    (fun f e he => hc.annotates ⟨_, _, _, f, hd, he⟩) hfinish
    (Course.PlainDicts.of_grown hc.dicts hfinal)
    fun info hinfo hinfoPath => hc.fitting hd hend.worlds.start (hfinal.classes hinfo)
      (hinfoPath.trans hpath)
  refine ⟨w₁', ?_, ht₁, ho₂.trans (ho₃.trans (ho₄.trans (ho₆.trans honward)))⟩
  refine run_bind_ok.mpr ⟨options, w₂', hoptions', run_bind_ok.mpr ⟨values, w₃', hvalues', ?_⟩⟩
  refine run_bind_ok.mpr ⟨words, w₄', hwords', ?_⟩
  rw [run_get_bind]
  exact run_bind_ok.mpr ⟨h, w₄', run_lifted_ok.mpr ⟨hheader', rfl⟩,
    run_bind_ok.mpr ⟨body', w₆', hbody', hfinish'⟩⟩

end Items

mutual

/-- Every class that the first run makes, the second one makes too. -/
theorem repeats_class (hc : Suits definitions c s final) :
    (d : ClassDefinition) → RepeatsClass definitions c s final d
  | .mk _ _ _ _ items => repeats_mk hc (repeats_body hc items)

theorem repeats_body (hc : Suits definitions c s final) :
    (items : List BodyItem) → RepeatsBody definitions c s final items
  | [] => repeats_nil
  | item :: rest => repeats_cons (repeats_item hc item) (repeats_body hc rest)

theorem repeats_item (hc : Suits definitions c s final) :
    (item : BodyItem) → RepeatsItem definitions c s final item
  | .field _ _ none => repeats_field hc
  | .field _ _ (some _) => repeats_field_value hc
  | .assignment _ _ => repeats_assignment
  | .property _ _ _ => repeats_property hc
  | .writeOnly _ => repeats_writeOnly
  | .method _ _ => repeats_method
  | .cls d => repeats_nested (repeats_class hc d)
  | .enum _ => repeats_enum

end

end Classes

end TypeProjection.Definition
