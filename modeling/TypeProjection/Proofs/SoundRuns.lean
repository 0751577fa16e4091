import TypeProjection.Proofs.SoundClasses

/-!
# What running definitions makes

Running the definitions of a module in a closed world leads to a closed world that has grown, also
when it fails; whatever a definition gives is sound there. `Leads` states this for a step of a run,
and there is one lemma for each step.
-/

namespace TypeProjection.Definition

open Annotation

variable {α β : Type} {w : World}

/-- In a closed world, the step leads to a closed world that has grown, and if it gives something,
then something with the property. -/
def Leads (w : World) (m : Run α) (Q : World → α → Prop) : Prop :=
  w.Closed → (m.run.run w).2.Closed ∧ w.Grown (m.run.run w).2 ∧
    ∀ a, (m.run.run w).1 = .ok a → Q (m.run.run w).2 a

/-- The step leads to a closed world that has grown. -/
def Keeps (w : World) (m : Run Unit) : Prop := Leads w m fun _ _ => True

/-- A property that is kept when the world grows. -/
def Lasting (Q : World → α → Prop) : Prop :=
  ∀ {w w' : World} {a : α}, w.Closed → w.Grown w' → Q w a → Q w' a

theorem lasting_sound : Lasting World.Sound := fun hw hg hv => hg.sound hw hv

theorem lasting_entry : Lasting fun w (e : String × Value) => w.Sound e.2 :=
  fun hw hg hv => hg.sound hw hv

section Rules

variable {m : Run α} {P : World → α → Prop} {Q : World → β → Prop}

theorem run_bind {ε σ : Type} (m : ExceptT ε (StateM σ) α) (f : α → ExceptT ε (StateM σ) β)
    (w : σ) :
    (m >>= f).run.run w =
      match m.run.run w with
      | (.ok a, w') => (f a).run.run w'
      | (.error e, w') => (.error e, w') := by
  rw [ExceptT.run_bind, StateT.run_bind]
  change (match m.run.run w with | (r, w') => _) = _
  rcases m.run.run w with ⟨e | a, w'⟩ <;> rfl

/-- A sequence of steps succeeds if its steps do, one after another. -/
theorem run_bind_ok {ε σ : Type} {m : ExceptT ε (StateM σ) α} {f : α → ExceptT ε (StateM σ) β}
    {w w₂ : σ} {b : β} : (m >>= f).run.run w = (.ok b, w₂) ↔
      ∃ a w₁, m.run.run w = (.ok a, w₁) ∧ (f a).run.run w₁ = (.ok b, w₂) := by
  rw [run_bind]
  rcases m.run.run w with ⟨e | a, w₁⟩
  · constructor
    · intro h
      cases h
    · rintro ⟨a, w₁, h, -⟩
      cases h
  · constructor
    · exact fun h => ⟨a, w₁, rfl, h⟩
    · rintro ⟨a, w₁, h, hf⟩
      cases h
      exact hf

theorem run_tryCatch {ε σ : Type} (m : ExceptT ε (StateM σ) α) (f : ε → ExceptT ε (StateM σ) α)
    (w : σ) :
    (tryCatch m f).run.run w =
      match m.run.run w with
      | (.ok a, w') => (.ok a, w')
      | (.error e, w') => (f e).run.run w' := by
  rw [ExceptT.run_tryCatch, StateT.run_bind]
  change (match m.run.run w with | (r, w') => _) = _
  rcases m.run.run w with ⟨e | a, w'⟩ <;> rfl

theorem leads_of_closed {P : World → α → Prop} (h : w.Closed → Leads w m P) : Leads w m P :=
  fun hw => h hw hw

theorem leads_pure {a : α} (h : P w a) : Leads w (pure a) P :=
  fun hw => ⟨hw, World.Grown.refl w, fun _ ha => by cases ha; exact h⟩

theorem leads_failing {f : Fault} : Leads w (failing f) P :=
  fun hw => ⟨hw, World.Grown.refl w, fun _ ha => nomatch ha⟩

theorem leads_lifted {x : Except Fault α} (h : Gives x (P w)) : Leads w (lifted x) P := by
  cases x with
  | error f => exact leads_failing
  | ok a => exact leads_pure (h a rfl)

theorem Leads.bind {f : α → Run β} (hm : Leads w m P)
    (hf : ∀ a w', w'.Closed → w.Grown w' → P w' a → Leads w' (f a) Q) : Leads w (m >>= f) Q := by
  intro hw
  obtain ⟨hw', hg, ha⟩ := hm hw
  rw [run_bind]
  rcases hrun : m.run.run w with ⟨e | a, w'⟩
  · rw [hrun] at hw' hg
    exact ⟨hw', hg, fun _ h => nomatch h⟩
  · rw [hrun] at hw' hg ha
    obtain ⟨hw'', hg', hb⟩ := hf a w' hw' hg (ha a rfl) hw'
    exact ⟨hw'', hg.trans hg', hb⟩

theorem Leads.mono {P' : World → α → Prop} (hm : Leads w m P)
    (h : ∀ w' a, w'.Closed → w.Grown w' → P w' a → P' w' a) : Leads w m P' := by
  intro hw
  obtain ⟨hw', hg, ha⟩ := hm hw
  exact ⟨hw', hg, fun a hok => h _ a hw' hg (ha a hok)⟩

/-- A step that begins with a look at the world. -/
theorem leads_look {f : World → Run β} (h : Leads w (f w) Q) : Leads w (get >>= f) Q := by
  intro hw
  obtain ⟨hw', hg, ha⟩ := h hw
  exact ⟨hw', hg, ha⟩

/-- A step that begins with a pure result. -/
theorem leads_lifted_bind {x : Except Fault α} {f : α → Run β}
    (h : Gives x fun a => Leads w (f a) Q) : Leads w (lifted x >>= f) Q := by
  cases x with
  | error e => exact leads_failing
  | ok a => exact h a rfl

/-- A step that replaces the world and gives a value. -/
theorem leads_set {w' : World} {a : α} (h : w.Closed → w'.Closed ∧ w.Grown w') (ha : P w' a) :
    Leads w (do set w'; return a) P :=
  fun hw => ⟨(h hw).1, (h hw).2, fun _ hok => by cases hok; exact ha⟩

theorem leads_modify {f : World → World} (h : w.Closed → (f w).Closed ∧ w.Grown (f w)) :
    Keeps w (modify f) :=
  fun hw => ⟨(h hw).1, (h hw).2, fun _ _ => trivial⟩

theorem leads_tryCatch {f : Fault → Run α} (hm : Leads w m P)
    (hf : ∀ e w', w'.Closed → w.Grown w' → Leads w' (f e) P) : Leads w (tryCatch m f) P := by
  intro hw
  obtain ⟨hw', hg, ha⟩ := hm hw
  rw [run_tryCatch]
  rcases hrun : m.run.run w with ⟨e | a, w'⟩
  · rw [hrun] at hw' hg
    obtain ⟨hw'', hg', hb⟩ := hf e w' hw' hg hw'
    exact ⟨hw'', hg.trans hg', hb⟩
  · rw [hrun] at hw' hg ha
    exact ⟨hw', hg, ha⟩

/-- Every element leads to a result with a lasting property, so all of them do. -/
theorem leads_mapM {f : α → Run β} {xs : List α} (hQ : Lasting Q)
    (h : ∀ x ∈ xs, ∀ w', w'.Closed → w.Grown w' → Leads w' (f x) Q) :
    Leads w (xs.mapM f) fun w' ys => ∀ y ∈ ys, Q w' y := by
  induction xs generalizing w with
  | nil => exact leads_pure fun _ hy => (List.not_mem_nil hy).elim
  | cons x xs ih =>
    rw [List.mapM_cons]
    refine leads_of_closed fun hw => ?_
    refine (h x (List.mem_cons_self ..) w hw (World.Grown.refl w)).bind fun y w' hw' hg hy => ?_
    have hrest : ∀ x ∈ xs, ∀ w'', w''.Closed → w'.Grown w'' → Leads w'' (f x) Q :=
      fun x hx w'' hw'' hg' => h x (List.mem_cons_of_mem _ hx) w'' hw'' (hg.trans hg')
    refine (ih hrest).bind fun ys w'' _ hg' hys => leads_pure ?_
    exact List.forall_mem_cons.mpr ⟨hQ hw' hg' hy, hys⟩

theorem leads_forM {f : α → Run Unit} {xs : List α}
    (h : ∀ x ∈ xs, ∀ w', w'.Closed → w.Grown w' → Keeps w' (f x)) : Keeps w (xs.forM f) := by
  induction xs generalizing w with
  | nil => exact leads_pure trivial
  | cons x xs ih =>
    refine leads_of_closed fun hw => ?_
    refine (h x (List.mem_cons_self ..) w hw (World.Grown.refl w)).bind fun _ w' _ hg _ => ?_
    exact ih fun x hx w'' hw'' hg' => h x (List.mem_cons_of_mem _ hx) w'' hw'' (hg.trans hg')

theorem leads_foldlM {f : β → α → Run β} {xs : List α}
    (h : ∀ x ∈ xs, ∀ w' b, w'.Closed → w.Grown w' → Q w' b → Leads w' (f b x) Q) {b : β}
    (hb : Q w b) : Leads w (xs.foldlM f b) Q := by
  induction xs generalizing w b with
  | nil => exact leads_pure hb
  | cons x xs ih =>
    rw [List.foldlM_cons]
    refine leads_of_closed fun hw => ?_
    refine (h x (List.mem_cons_self ..) w b hw (World.Grown.refl w) hb).bind
      fun c w' _ hg hc => ?_
    exact ih (fun x hx w'' b hw'' hg' hb => h x (List.mem_cons_of_mem _ hx) w'' b hw''
      (hg.trans hg') hb) hc

end Rules

/-! Values of texts. -/

section Values

variable {s : Setting} {p : Spot} {text : String} {v : Value}

/-- What imports give is sound. -/
def Imports (importFrom : String → List String → Run (List Value)) : Prop :=
  ∀ (module : String) (names : List String) (w : World),
    Leads w (importFrom module names) fun w' vs => ∀ v ∈ vs, w'.Sound v

theorem leads_sourceExpression : Leads w (sourceExpression text) fun _ _ => True := by
  unfold sourceExpression
  split
  · exact leads_pure trivial
  · exact leads_failing

theorem leads_valueOf {e : Expr} (hp : w.SoundNames p.locals) :
    Leads w (valueOf s p e) World.Sound := by
  refine leads_of_closed fun hw => leads_look (leads_look (leads_lifted ?_))
  refine World.gives_evaluate hw (fun names hnames => ?_) e
  rcases List.mem_cons.mp hnames with rfl | hnames
  · exact hp
  · cases List.mem_singleton.mp hnames
    exact World.sound_namesOf hw s.module

theorem leads_valueOfText (hp : w.SoundNames p.locals) :
    Leads w (valueOfText s p text) World.Sound :=
  leads_of_closed fun hw => leads_sourceExpression.bind fun _ _ _ hg _ =>
    leads_valueOf (hg.soundNames hw hp)

theorem leads_annotationAt (hp : w.SoundNames p.locals) :
    Leads w (annotationAt s p text) World.Sound := by
  refine leads_of_closed fun hw => leads_sourceExpression.bind fun e w' _ hg _ => ?_
  split
  · exact leads_pure World.sound_str
  · exact leads_valueOf (hg.soundNames hw hp)

theorem keeps_bind {name : String} (hv : w.Sound v) : Keeps w (bind s name v) :=
  leads_modify fun hw => World.closed_changeModule hw s.module fun _ _ =>
    World.soundNames_putPair (World.sound_namesOf hw s.module) name hv

theorem lt_size_push {γ : Type} (xs : Array γ) (x : γ) : xs.size < (xs.push x).size := by
  rw [Array.size_push]
  exact Nat.lt_succ_self _

theorem leads_newTypeVar {name : String} {variance : Variance} {alternatives : List Value}
    {bound : Option Value} {b : Bool} (ha : ∀ a ∈ alternatives, w.Sound a)
    (hb : ∀ v, bound = some v → w.Sound v) :
    Leads w (newTypeVar s name variance alternatives bound b) World.Sound := by
  refine leads_of_closed fun hw => leads_look ?_
  extract_lets rest
  have hrest : ∀ o : Option Value, (∀ t, o = some t → w.Sound t) → Leads w (rest o) World.Sound := by
    intro o ho
    unfold rest
    split
    · exact leads_failing
    split
    · exact leads_failing
    refine leads_lifted_bind ((gives_mapM fun a ha' => World.gives_checkType (ha a ha')).mono
      fun ts hts => ?_)
    have hbounds : ∀ t ∈ o.toList ++ ts, w.Sound t := by
      intro t ht
      rcases List.mem_append.mp ht with ht | ht
      · exact ho t (Option.mem_toList.mp ht)
      · exact hts.2 t ht
    refine leads_set (fun hw => World.closed_pushTypeVar hw hbounds) (World.sound_typeVar.mpr ?_)
    exact lt_size_push w.typeVars _
  split
  · rw [pure_bind]
    exact hrest none nofun
  · rw [pure_bind]
    exact hrest none nofun
  · next v _ =>
    refine leads_lifted_bind ((World.gives_checkType (hb _ rfl)).mono fun t ht => ?_)
    rw [pure_bind]
    exact hrest (some t) fun _ h => Option.some_inj.mp h ▸ ht

theorem leads_newParamSpec {name : String} : Leads w (newParamSpec s name) World.Sound :=
  leads_look (leads_set (fun hw => World.closed_pushParamSpec hw _)
    (World.sound_paramSpec.mpr (lt_size_push w.paramSpecs _)))

theorem leads_newNamedType {name : String} (hv : w.Sound v) :
    Leads w (newNamedType s name v) World.Sound :=
  leads_look (leads_set (fun hw => World.closed_pushNewType hw hv)
    (World.sound_newType.mpr (lt_size_push w.newTypes _)))

theorem leads_called {callee : Value} {arguments : List Value} {words : List (String × Value)}
    (hc : w.Sound callee) (ha : ∀ a ∈ arguments, w.Sound a) (hwords : w.SoundNames words) :
    Leads w (called s callee arguments words) World.Sound := by
  unfold called
  split
  · exact leads_newParamSpec
  · refine leads_newTypeVar (List.forall_mem_cons.mp ha).2 fun v hv => hwords.lookup hv
  · refine leads_newNamedType ?_
    exact ha _ (by simp)
  · refine leads_of_closed fun hw => ?_
    have hmark : ∀ i, Keeps w (markConstructible i) := fun i =>
      leads_modify fun hw => World.closed_modifyTypeVar hw i fun _ => rfl
    refine (hmark _).bind fun _ w' _ hg _ => leads_pure (hg.sound hw ?_)
    exact ha _ (List.mem_singleton_self _)
  · refine leads_look (leads_lifted (World.gives_call ?_))
    refine List.forall_mem_append.mpr ⟨ha, fun v hv => ?_⟩
    obtain ⟨e, he, rfl⟩ := List.mem_map.mp hv
    exact hwords e he

theorem leads_values (hp : w.SoundNames p.locals) (es : List Expr) :
    Leads w (es.mapM (valueOf s p)) fun w' vs => ∀ v ∈ vs, w'.Sound v :=
  leads_of_closed fun hw => leads_mapM lasting_sound fun _ _ _ _ hg =>
    leads_valueOf (hg.soundNames hw hp)

theorem leads_texts (hp : w.SoundNames p.locals) (texts : List String) :
    Leads w (texts.mapM (valueOfText s p)) fun w' vs => ∀ v ∈ vs, w'.Sound v :=
  leads_of_closed fun hw => leads_mapM lasting_sound fun _ _ _ _ hg =>
    leads_valueOfText (hg.soundNames hw hp)

theorem leads_words (hp : w.SoundNames p.locals) (named : List (String × Expr)) :
    Leads w (named.mapM fun n => do return (n.1, ← valueOf s p n.2)) World.SoundNames :=
  leads_of_closed fun hw => leads_mapM lasting_entry fun _ _ _ _ hg =>
    (leads_valueOf (hg.soundNames hw hp)).bind fun _ _ _ _ hv => leads_pure hv

theorem leads_assignedValue (hp : w.SoundNames p.locals) :
    Leads w (assignedValue s p text) World.Sound := by
  refine leads_of_closed fun hw => leads_sourceExpression.bind fun e w₁ hw₁ hg₁ _ => ?_
  have hp₁ := hg₁.soundNames hw hp
  split
  · refine (leads_valueOf hp₁).bind fun f w₂ hw₂ hg₂ hf => ?_
    have hp₂ := hg₂.soundNames hw₁ hp₁
    refine (leads_values hp₂ _).bind fun vs w₃ hw₃ hg₃ hvs => ?_
    refine (leads_words (hg₃.soundNames hw₂ hp₂) _).bind fun words w₄ _ hg₄ hwords => ?_
    exact leads_called (hg₄.sound hw₃ (hg₃.sound hw₂ hf))
      (fun v hv => hg₄.sound hw₃ (hvs v hv)) hwords
  · exact leads_valueOf hp₁

theorem leads_assignedAttribute (hp : w.SoundNames p.locals) :
    Leads w (assignedAttribute s p text) World.SoundAttribute := by
  refine leads_of_closed fun hw => leads_sourceExpression.bind fun e w₁ hw₁ hg₁ _ => ?_
  have hp₁ := hg₁.soundNames hw hp
  have hvalue : ∀ w', w₁.Grown w' → Leads w' (do return .value (← assignedValue s p text))
      World.SoundAttribute := fun w' hg =>
    (leads_assignedValue (hg.soundNames hw₁ hp₁)).bind fun _ _ _ _ hv => leads_pure hv
  split
  · refine (leads_valueOf hp₁).bind fun f w₂ hw₂ hg₂ _ => ?_
    have hp₂ := hg₂.soundNames hw₁ hp₁
    split
    case h_3 => exact hvalue w₂ hg₂
    all_goals
      refine (leads_values hp₂ _).bind fun vs w₃ hw₃ hg₃ _ => ?_
      refine (leads_words (hg₃.soundNames hw₂ hp₂) _).bind fun words w₄ _ _ _ => ?_
      dsimp only
      split
      · exact leads_pure trivial
      · exact leads_pure trivial
      · exact leads_pure nofun
  · exact hvalue w₁ (World.Grown.refl w₁)

theorem leads_dataOptions (hp : w.SoundNames p.locals) :
    Leads w (dataOptions? s p text) fun _ _ => True := by
  refine leads_of_closed fun hw => leads_sourceExpression.bind fun e w₁ hw₁ hg₁ _ => ?_
  have hp₁ := hg₁.soundNames hw hp
  split
  · refine (leads_valueOf hp₁).bind fun f w₂ hw₂ hg₂ _ => ?_
    split
    · exact (leads_words (hg₂.soundNames hw₁ hp₁) _).bind fun _ _ _ _ _ => leads_pure trivial
    · exact leads_pure trivial
  · refine (leads_valueOf hp₁).bind fun f w₂ _ _ _ => ?_
    split
    · exact leads_pure trivial
    · exact leads_pure trivial

theorem leads_headerWords (hp : w.SoundNames p.locals) :
    Leads w (headerWords s p text) World.SoundNames := by
  unfold headerWords
  split
  · exact leads_pure fun _ h => (List.not_mem_nil h).elim
  · refine leads_of_closed fun hw => leads_sourceExpression.bind fun e w₁ hw₁ hg₁ _ => ?_
    split
    · exact leads_words (hg₁.soundNames hw hp) _
    · exact leads_pure fun _ h => (List.not_mem_nil h).elim

end Values

/-! Definitions. -/

section Definitions

variable {s : Setting} {p : Spot} {v : Value} {h : Header} {body : Body} {info : ClassInfo}

/-- A new class is there, and the world with it is closed. -/
theorem leads_addClass (hi : SoundInfo w info) :
    Leads w (do
      let (w', c) := addClass w info
      set w'
      return .cls c) World.Sound := by
  have hvalid : World.Valid (addClass w info).1 (addClass w info).2 := lt_size_push w.classes _
  refine leads_of_closed fun hw => ?_
  refine leads_set (fun _ => World.closed_pushClass hw (fun w' hg hlt => ?_) ⟨hi.rooted.bases,
    hi.rooted.shapes⟩) (World.sound_cls.mpr hvalid)
  have hsound := hg.soundClass hw hi.sound
  have horder := valid_order hw hi.rooted.bases
  exact ⟨List.forall_mem_cons.mpr ⟨hlt, fun c hc => hg.valid (horder c hc)⟩, hsound.writtenBases,
    hsound.parameters, hsound.annotations, hsound.attributes⟩

theorem leads_finishClass {options : List (Option DataOptions)} (hh : SoundHeader w h)
    (hb : SoundBody w body) : Leads w (finishClass h body options) World.Sound := by
  refine leads_of_closed fun hw => leads_look ?_
  refine leads_lifted_bind ((gives_buildClass hw hh hb).mono fun info hi => ?_)
  extract_lets order
  have hstart : SoundInfo w { info with ancestors := order } :=
    ⟨⟨hi.rooted.bases, hi.rooted.shapes⟩, valid_order hw hi.rooted.bases, hi.sound.writtenBases,
      hi.sound.parameters, hi.sound.annotations, hi.sound.attributes⟩
  -- the data classes are made in the world as it is
  refine (leads_foldlM (Q := fun w' i => w' = w ∧ SoundInfo w i) ?_ ⟨rfl, hstart⟩).bind ?_
  · rintro o - w' i - - ⟨rfl, hi⟩
    split
    · exact leads_lifted ((gives_makeDataClass hi).mono fun _ hi => ⟨rfl, hi⟩)
    · exact leads_pure ⟨rfl, hi⟩
  · rintro made _ - - ⟨rfl, hmade⟩
    exact leads_addClass hmade

theorem leads_runEnum {d : EnumDefinition} (hp : w.SoundNames p.locals) :
    Leads w (runEnum s p d) World.Sound := by
  refine leads_of_closed fun hw => (leads_valueOfText hp).bind fun v w₁ hw₁ hg₁ hv => ?_
  extract_lets make
  have hmake : ∀ written, (∀ v ∈ written, w₁.Sound v) → Leads w₁ (make written) World.Sound := by
    intro written hwritten
    refine leads_look (leads_lifted_bind fun h hok => ?_)
    have hh := gives_headerOf hwritten h hok
    dsimp only
    refine leads_lifted_bind fun members _ => ?_
    refine leads_lifted_bind fun _ _ => ?_
    refine leads_addClass ⟨⟨hh.bases, ?_⟩, fun _ h => (List.not_mem_nil h).elim, ?_, ?_, ?_, ?_⟩
    · intro v hv
      split at hv
      · exact hh.shapes v (written_headerOf h hok ▸ hv)
      · obtain ⟨c, -, rfl⟩ := List.mem_map.mp hv
        exact .cls c
    · intro v hv
      split at hv
      · exact hwritten v hv
      · obtain ⟨c, hc, rfl⟩ := List.mem_map.mp hv
        exact World.sound_cls.mpr (hh.bases c hc)
    all_goals exact fun _ h => (List.not_mem_nil h).elim
  split
  · rw [pure_bind]
    exact hmake _ (World.sound_tuple.mp hv)
  · rw [pure_bind]
    exact hmake _ (List.forall_mem_singleton.mpr hv)

theorem leads_runProperty {kind : PropertyKind} {returns : Option String}
    (hp : w.SoundNames p.locals) :
    Leads w (runProperty s p kind returns) World.SoundAttribute := by
  unfold runProperty
  split
  · rw [pure_bind]
    exact leads_pure nofun
  · refine (leads_annotationAt hp).bind fun v _ _ _ hv => ?_
    rw [pure_bind]
    exact leads_pure fun _ h => Option.some_inj.mp h ▸ hv

theorem soundAttributes_putPair {attributes : List (String × Attribute)} {name : String}
    {a : Attribute} (h : ∀ e ∈ attributes, w.SoundAttribute e.2) (ha : w.SoundAttribute a) :
    ∀ e ∈ putPair name a attributes, w.SoundAttribute e.2 := by
  induction attributes with
  | nil => exact List.forall_mem_singleton.mpr ha
  | cons e attributes ih =>
    obtain ⟨he, hattributes⟩ := List.forall_mem_cons.mp h
    unfold putPair
    split
    · exact List.forall_mem_cons.mpr ⟨ha, hattributes⟩
    · exact List.forall_mem_cons.mpr ⟨he, ih hattributes⟩

theorem SoundBody.put {name : String} {a : Attribute} (hb : SoundBody w body)
    (ha : w.SoundAttribute a) : SoundBody w (body.put name a) :=
  ⟨hb.annotations, soundAttributes_putPair hb.attributes ha⟩

theorem SoundBody.grow {w' : World} (hw : w.Closed) (hg : w.Grown w') (hb : SoundBody w body) :
    SoundBody w' body :=
  ⟨hg.soundNames hw hb.annotations, fun a ha => hg.soundAttribute hw (hb.attributes a ha)⟩

theorem SoundHeader.grow {w' : World} (hg : w.Grown w') (hw : w.Closed) (hh : SoundHeader w h) :
    SoundHeader w' h :=
  ⟨fun v hv => hg.sound hw (hh.written v hv), hh.shapes,
    fun b hb c hc => hg.valid (hh.entries b hb c hc)⟩

theorem sound_attributeValues {path : String} {attributes : List (String × Attribute)}
    (h : ∀ a ∈ attributes, w.SoundAttribute a.2) :
    w.SoundNames (attributeValues s path attributes) := by
  intro e he
  obtain ⟨⟨n, a⟩, ha, rfl⟩ := List.mem_map.mp he
  have hsound := h _ ha
  cases a with
  | value v => exact hsound
  | property g b => exact World.sound_other
  | method b => exact World.sound_function

mutual

/-- Making a class leads to a sound value. -/
theorem leads_runClass {w : World} {p : Spot} (hp : w.SoundNames p.locals) :
    (d : ClassDefinition) → Leads w (runClass s p d) World.Sound
  | .mk written bases decorators header items => by
    rw [runClass]
    refine leads_of_closed fun hw => ?_
    have hoptions : Leads w (decorators.mapM (dataOptions? s p)) fun _ _ => True :=
      (leads_mapM (Q := fun _ _ => True) (fun _ _ _ => trivial) fun _ _ _ _ hg =>
        leads_dataOptions (hg.soundNames hw hp)).mono fun _ _ _ _ _ => trivial
    refine hoptions.bind fun options w₁ hw₁ hg₁ _ => ?_
    have hp₁ := hg₁.soundNames hw hp
    refine (leads_texts hp₁ bases).bind fun values w₂ hw₂ hg₂ hvalues => ?_
    refine (leads_headerWords (hg₂.soundNames hw₁ hp₁)).bind fun words w₃ hw₃ hg₃ _ => ?_
    refine leads_look (leads_lifted_bind ?_)
    refine (gives_headerOf fun v hv => hg₃.sound hw₂ (hvalues v hv)).mono fun h hh => ?_
    have hempty : SoundBody w₃ ⟨[], []⟩ :=
      ⟨fun _ h => (List.not_mem_nil h).elim, fun _ h => (List.not_mem_nil h).elim⟩
    refine (leads_runBody hempty items).bind fun body w₄ _ hg₄ hbody => ?_
    exact leads_finishClass (hh.grow hg₄ hw₃) hbody

theorem leads_runBody {w : World} {p : Spot} {body : Body} (hb : SoundBody w body) :
    (items : List BodyItem) → Leads w (runBody s p body items) SoundBody
  | [] => by
    rw [runBody]
    exact leads_pure hb
  | item :: rest => by
    rw [runBody]
    refine (leads_runItem (sound_attributeValues hb.attributes) hb item).bind ?_
    exact fun more w₁ _ _ hmore => leads_runBody hmore rest

theorem leads_runItem {w : World} {p : Spot} {body : Body} (hp : w.SoundNames p.locals)
    (hb : SoundBody w body) :
    (item : BodyItem) → Leads w (runItem s p body item) SoundBody
  | .field written annotation none => by
    rw [runItem, pure_bind]
    refine leads_of_closed fun hw => (leads_annotationAt hp).bind fun v w₁ _ hg hv => ?_
    have hbody := hb.grow hw hg
    exact leads_pure ⟨World.soundNames_putPair hbody.annotations _ hv, hbody.attributes⟩
  | .field written annotation (some text) => by
    rw [runItem]
    refine leads_of_closed fun hw => (leads_assignedAttribute hp).bind fun a w₁ hw₁ hg₁ ha => ?_
    extract_lets attributes
    rw [pure_bind]
    have hattributes : ∀ e ∈ attributes, w₁.SoundAttribute e.2 :=
      soundAttributes_putPair (hb.grow hw hg₁).attributes ha
    refine (leads_annotationAt (sound_attributeValues hattributes)).bind fun v w₂ _ hg₂ hv => ?_
    refine leads_pure ⟨World.soundNames_putPair ?_ _ hv, ?_⟩
    · exact hg₂.soundNames hw₁ (hg₁.soundNames hw hb.annotations)
    · exact fun a ha => hg₂.soundAttribute hw₁ (hattributes a ha)
  | .assignment written text => by
    rw [runItem]
    refine leads_of_closed fun hw => (leads_assignedAttribute hp).bind fun a _ _ hg ha => ?_
    exact leads_pure ((hb.grow hw hg).put ha)
  | .property kind written returns => by
    rw [runItem]
    refine leads_of_closed fun hw => (leads_runProperty hp).bind fun a _ _ hg ha => ?_
    exact leads_pure ((hb.grow hw hg).put ha)
  | .writeOnly written => by
    rw [runItem]
    exact leads_pure (hb.put trivial)
  | .method written isAbstract => by
    rw [runItem]
    exact leads_pure (hb.put trivial)
  | .cls d => by
    rw [runItem]
    refine leads_of_closed fun hw => (leads_runClass hp d).bind fun v _ _ hg hv => ?_
    exact leads_pure ((hb.grow hw hg).put hv)
  | .enum d => by
    rw [runItem]
    refine leads_of_closed fun hw => (leads_runEnum hp).bind fun v _ _ hg hv => ?_
    exact leads_pure ((hb.grow hw hg).put hv)

end

theorem keeps_runVariable {d : VariableDefinition} : Keeps w (runVariable s d) := by
  have hnone : ∀ {w : World}, w.SoundNames Spot.outside.locals :=
    fun _ h => (List.not_mem_nil h).elim
  refine (leads_texts hnone d.alternatives).bind fun alternatives w₁ hw₁ hg₁ ha => ?_
  extract_lets make
  have hmake : ∀ w₂ o, w₁.Grown w₂ → (∀ v, o = some v → w₂.Sound v) → Keeps w₂ (make o) := by
    intro w₂ o hg₂ ho
    have halternatives : ∀ a ∈ alternatives, w₂.Sound a := fun a h => hg₂.sound hw₁ (ha a h)
    exact (leads_newTypeVar halternatives ho).bind fun v _ _ _ hv => keeps_bind hv
  split
  · rw [pure_bind]
    exact hmake w₁ none (World.Grown.refl w₁) nofun
  · refine (leads_valueOfText hnone).bind fun v w₂ _ hg₂ hv => ?_
    rw [pure_bind]
    exact hmake w₂ (some v) hg₂ fun _ h => Option.some_inj.mp h ▸ hv

theorem keeps_runDefinition (hs : Imports s.importFrom) (item : ModuleItem) :
    Keeps w (runDefinition s item) := by
  have hnone : ∀ {w : World}, w.SoundNames Spot.outside.locals :=
    fun _ h => (List.not_mem_nil h).elim
  match item with
  | .cls d => exact (leads_runClass hnone d).bind fun v _ _ _ hv => keeps_bind hv
  | .enum d => exact (leads_runEnum hnone).bind fun v _ _ _ hv => keeps_bind hv
  | .typeVar d => exact keeps_runVariable
  | .newType name supertype =>
    refine (leads_valueOfText hnone).bind fun v _ _ _ hv => ?_
    exact (leads_newNamedType hv).bind fun v _ _ _ hv => keeps_bind hv
  | .alias name text => exact (leads_assignedValue hnone).bind fun v _ _ _ hv => keeps_bind hv
  | .imports module names =>
    refine (hs module names w).bind fun values w₁ hw₁ hg₁ hvalues => ?_
    refine leads_forM fun e he w₂ hw₂ hg₂ => keeps_bind (hg₂.sound hw₁ ?_)
    exact hvalues e.2 (List.of_mem_zip he).2
  | .raising _ => exact leads_failing

theorem sound_imported (hw : w.Closed) (module name : String) :
    w.Sound (imported module name).2 := by
  change w.Sound ((moduleAttribute? module name).getD .none)
  cases h : moduleAttribute? module name with
  | none => exact World.sound_none
  | some v => exact World.sound_moduleAttribute hw.library h

theorem sound_preamble (hw : w.Closed) : w.SoundNames preamble := by
  have hmodules : ∀ names : List String,
      w.SoundNames (names.map fun n => (n, Value.module n)) := by
    intro names e he
    obtain ⟨n, -, rfl⟩ := List.mem_map.mp he
    exact World.sound_module
  have himported : ∀ (module : String) (names : List String),
      w.SoundNames (names.map (imported module)) := by
    intro module names e he
    obtain ⟨n, -, rfl⟩ := List.mem_map.mp he
    exact sound_imported hw module n
  have happend : ∀ {xs ys : List (String × Value)}, w.SoundNames xs → w.SoundNames ys →
      w.SoundNames (xs ++ ys) := fun hx hy => List.forall_mem_append.mpr ⟨hx, hy⟩
  refine happend (happend (happend (happend (happend (happend (happend (hmodules _) ?_)
    (hmodules _)) (himported _ _)) (himported _ _)) ?_) (himported _ _)) ?_
  · exact List.forall_mem_singleton.mpr World.sound_module
  · exact List.forall_mem_singleton.mpr (sound_imported hw _ _)
  · refine List.forall_mem_cons.mpr ⟨World.sound_cls.mpr World.valid_library, ?_⟩
    exact List.forall_mem_singleton.mpr World.sound_function

/-- Running definitions leads to a closed world that has grown. -/
theorem keeps_runDefinitions (hs : Imports s.importFrom) (definitions : List ModuleItem) :
    Keeps w (runDefinitions s definitions) := by
  refine leads_of_closed fun hw => ?_
  refine (leads_forM fun e he w₁ hw₁ hg₁ => keeps_bind ?_).bind fun _ _ _ _ _ => ?_
  · exact hg₁.sound hw (sound_preamble hw e he)
  · exact leads_forM fun item _ _ _ _ => keeps_runDefinition hs item

end Definitions

end TypeProjection.Definition
