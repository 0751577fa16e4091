import TypeProjection.Proofs.EvaluationGrowth
import TypeProjection.Proofs.PostponedWorlds

/-!
# Texts that wait for their module

While a module runs, more and more of its names are bound. An annotation that was evaluated in the
meantime keeps its value, and its text keeps that meaning as long as none of the words in it is
bound later, neither in the module nor in the body of the class.
-/

namespace TypeProjection.Annotation

/-- The names and the attributes in an expression. -/
def Expr.words (e : Expr) : List String := e.names ++ e.attributes

namespace World

variable {w w' : World} {names later rest : List String} {module : String}
variable {locals locals' : List (String × Value)} {v t : Value}

/-- The second world continues the first one; at most the names in the list have got a meaning in
modules. -/
structure Evolves (later : List String) (w w' : World) : Prop
    extends w.Continues (· ∉ later) w' where
  lookups : ∀ {module name}, name ∉ later →
    (w'.namesOf module).lookup name = (w.namesOf module).lookup name

/-- A world that has grown and has the same modules. -/
theorem Grown.evolves (h : w.Grown w') (hm : w'.modules = w.modules)
    (hc : w'.current = w.current) (later : List String) : w.Evolves later w' := by
  have hloaded : w'.loaded? = w.loaded? := by
    funext module
    rw [World.loaded?, World.loaded?, hm, hc]
  constructor
  · refine ⟨h, fun {module name v} _ hv => ?_, fun module => by rw [hloaded]⟩
    rw [moduleName?, hloaded]
    exact hv
  · intro module name _
    rw [namesOf, namesOf, hloaded]

/-- A module after it has bound a name, as it is found by any of its names. -/
theorem loaded_withNames (w : World) (module name : String) (v : Value) (m : String) :
    (w.withNames module (putPair name v (w.namesOf module))).loaded? m = w.loaded? m ∨
      ∃ x, w.loaded? m = some x ∧
        (w.withNames module (putPair name v (w.namesOf module))).loaded? m =
          some { x with names := putPair name v x.names } := by
  unfold withNames changeModule namesOf
  cases hi : w.current.lookup module with
  | none => exact .inl rfl
  | some i =>
    simp only [loaded?, hi, Option.bind_some]
    cases hm : w.current.lookup m with
    | none => exact .inl rfl
    | some j =>
      simp only [Option.bind_some, Array.getElem?_modify]
      by_cases hj : i = j
      · subst hj
        rw [if_pos rfl]
        cases w.modules[i]? with
        | none => exact .inl rfl
        | some x => exact .inr ⟨x, rfl, rfl⟩
      · rw [if_neg hj]
        exact .inl rfl

/-- A module binds a name. -/
theorem evolves_withNames {name : String}
    (hg : w.Grown (w.withNames module (putPair name v (w.namesOf module))))
    (hname : name ∈ later) :
    w.Evolves later (w.withNames module (putPair name v (w.namesOf module))) := by
  have hloaded := w.loaded_withNames module name v
  generalize w.withNames module (putPair name v (w.namesOf module)) = w' at hg hloaded
  have hlookup : ∀ {n : String} (names : List (String × Value)), n ∉ later →
      (putPair name v names).lookup n = names.lookup n := by
    intro n names hn
    rw [lookup_putPair, if_neg]
    rintro rfl
    exact hn hname
  constructor
  · refine ⟨hg, fun {m n x} hn hx => ?_, fun m => ?_⟩
    · rcases hloaded m with h | ⟨y, hy, h⟩
      · rw [moduleName?, h]
        exact hx
      · rw [moduleName?, hy] at hx
        rw [moduleName?, h]
        simp only [loadedName?, hlookup _ hn] at hx ⊢
        exact hx
    · rcases hloaded m with h | ⟨y, hy, h⟩
      · rw [h]
      · rw [h, hy]
        rfl
  · intro m n hn
    rw [namesOf, namesOf]
    rcases hloaded m with h | ⟨y, hy, h⟩
    · rw [h]
    · rw [h, hy]
      exact hlookup y.names hn

/-- A name means the same in two scopes if it does in their spaces. -/
theorem lookup_eq {globals globals' : List (String × Value)} {n : String}
    (hl : locals'.lookup n = locals.lookup n) (hg : globals'.lookup n = globals.lookup n) :
    (Surroundings.scope ⟨locals', globals'⟩).lookup n =
      (Surroundings.scope ⟨locals, globals⟩).lookup n := by
  simp only [Scope.lookup, Scope.known, Scope.find?, Surroundings.scope, List.findSome?, hl, hg]

theorem SoundNames.scope {globals : List (String × Value)} {owner : Option String}
    (hl : w.SoundNames locals) (hg : w.SoundNames globals) :
    w.SoundScope ⟨[locals, globals], owner⟩ := by
  intro names hnames
  rcases List.mem_cons.mp hnames with rfl | hnames
  · exact hl
  · cases List.mem_singleton.mp hnames
    exact hg

/-- An expression keeps its value while none of its words is bound. -/
theorem Evolves.evaluate (h : w.Evolves later w') (hw : w.Closed) (hl : w.SoundNames locals)
    {e : Expr} (hwords : ∀ n ∈ e.words, n ∉ later)
    (hlocals : ∀ n ∈ e.names, locals'.lookup n = locals.lookup n)
    (hv : w.evaluate (Surroundings.scope ⟨locals, w.namesOf module⟩) e = .ok v) :
    w'.evaluate (Surroundings.scope ⟨locals', w'.namesOf module⟩) e = .ok v := by
  obtain ⟨hnames, hattributes⟩ := List.forall_mem_append.mp hwords
  have hs : w.SoundScope (Surroundings.scope ⟨locals, w.namesOf module⟩) :=
    hl.scope (sound_namesOf hw module)
  have hechoes : Echoes (w.evaluate (Surroundings.scope ⟨locals, w.namesOf module⟩) e)
      (w'.evaluate (Surroundings.scope ⟨locals', w'.namesOf module⟩) e) := by
    refine h.echoes_evaluate hw hs e (fun n hn => ?_) fun a ha => ⟨hattributes a ha, rfl⟩
    rw [lookup_eq (hlocals n hn) (h.lookups (hnames n hn))]
    exact .refl _
  exact hechoes v hv

/-- Without private words, an expression has the same value outside of its class, if its names mean
the same there. -/
theorem evaluate_outside (hw : w.Closed) (hl : w.SoundNames locals) {owner : Option String}
    {e : Expr} (hpublic : ∀ n ∈ e.words, (Scope.mk [] owner).known n = n)
    (hlocals : ∀ n ∈ e.names, locals'.lookup n = locals.lookup n)
    (hv : w.evaluate ⟨[locals, w.namesOf module], owner⟩ e = .ok v) :
    w.evaluate (Surroundings.scope ⟨locals', w.namesOf module⟩) e = .ok v := by
  obtain ⟨hnames, hattributes⟩ := List.forall_mem_append.mp hpublic
  have hstays : w.Continues (fun _ => True) w :=
    ⟨Grown.refl w, fun _ h => h, fun _ => rfl⟩
  have hs : w.SoundScope ⟨[locals, w.namesOf module], owner⟩ :=
    hl.scope (sound_namesOf hw module)
  have hechoes : Echoes (w.evaluate ⟨[locals, w.namesOf module], owner⟩ e)
      (w.evaluate (Surroundings.scope ⟨locals', w.namesOf module⟩) e) := by
    refine hstays.echoes_evaluate hw hs e (fun n hn => ?_)
      fun a ha => ⟨trivial, (hattributes a ha).symm⟩
    have hknown : (Scope.mk [locals, w.namesOf module] owner).known n = n := hnames n hn
    rw [lookup_eq (hlocals n hn) rfl, Scope.lookup, hknown]
    exact .refl _
  exact hechoes v hv

/-! Values and texts of annotations. -/

variable {Q Q' : Expr → Prop} {later' rest' : List String}

/-- The value of an annotation and its text, in a module that has still to bind the names `later`,
and in a class that has still to bind the names `rest`. A value that was checked to be a type may
have been changed by that. -/
inductive Pends (Q : Expr → Prop) (later rest : List String) (w : World) (module : String)
    (locals : List (String × Value)) : Value → Value → Prop
  | same (v : Value) : Pends Q later rest w module locals v v
  | text {e : Expr} {u v t : Value} (hq : Q e) (hw : Writes e.text e)
      (hlater : ∀ n ∈ e.words, n ∉ later) (hrest : ∀ n ∈ e.names, n ∉ rest)
      (hu : w.evaluate (Surroundings.scope ⟨locals, w.namesOf module⟩) e = .ok u)
      (hv : v = u ∨ ∃ m f, asType m f u = .ok v) (ht : IsTextOf t e) :
      Pends Q later rest w module locals v t

/-- A text keeps its meaning while the module and the class bind other names. -/
theorem Pends.evolve (h : Pends Q later rest w module locals v t) (he : w.Evolves later w')
    (hw : w.Closed) (hl : w.SoundNames locals)
    (hlocals : ∀ e, Q e → (∀ n ∈ e.names, n ∉ rest) →
      ∀ n ∈ e.names, locals'.lookup n = locals.lookup n)
    (hQ : ∀ e, Q e → Q' e) (hlater : ∀ n ∈ later', n ∈ later) (hrest : ∀ n ∈ rest', n ∈ rest) :
    Pends Q' later' rest' w' module locals' v t := by
  cases h with
  | same => exact .same v
  | text hq hwrites hwords hnames hu hv ht =>
    exact .text (hQ _ hq) hwrites (fun n hn hm => hwords n hn (hlater n hm))
      (fun n hn hm => hnames n hn (hrest n hm))
      (he.evaluate hw hl hwords (hlocals _ hq hnames) hu) hv ht

/-- A value as a type is a type already. -/
theorem asType_of_asType {m m' : String} {f f' : Bool} {u : Value} (h : asType m f u = .ok v) :
    asType m' f' v = .ok v := by
  cases u with
  | none =>
    cases h
    rfl
  | str s =>
    change (if _ then _ else _) = _ at h
    split at h
    · cases h
      rfl
    · cases h
  | _ =>
    cases h
    rfl

/-- A value that was checked to be a type is the value itself, or stands for the absence of one. -/
theorem asType_of_textless {m : String} {f : Bool} {u : Value} (h : asType m f u = .ok v)
    (hv : w.Textless v) : v = u ∨ u = .none ∧ v = Value.noneType := by
  cases u with
  | none =>
    cases h
    exact .inr ⟨rfl, rfl⟩
  | str s =>
    change (if _ then _ else _) = _ at h
    split at h
    · cases h
      exact (hv.ne_forward _ _ _ rfl).elim
    · cases h
  | _ =>
    cases h
    exact .inl rfl

/-- A value without texts is what its text stands for. -/
theorem Pends.awaits (h : Pends Q later rest w module locals v t) (hv : w.Textless v) :
    w.Awaits ⟨locals, w.namesOf module⟩ v t := by
  have hnone : w.Textless .none := ⟨fun _ => by rw [resolveParts] <;> simp, nofun⟩
  cases h with
  | same => exact .same v
  | @text e u _ _ _ hwrites _ _ hu hcheck ht =>
    have hcases : v = u ∨ u = .none ∧ v = Value.noneType := by
      rcases hcheck with rfl | ⟨m, f, h⟩
      · exact .inl rfl
      · exact asType_of_textless h hv
    refine .text hwrites hu ?_ hcases ht
    rcases hcases with rfl | ⟨rfl, -⟩
    · exact hv
    · exact hnone

/-- Checking that an annotation is a type changes neither the value nor the text. -/
theorem Pends.checkType (h : Pends Q later rest w module locals v t) {w₁ : World} {use : TypeUse}
    {x : Value} (hx : w₁.checkType use v = .ok x) :
    ∃ y, w₁.checkType use t = .ok y ∧ Pends Q later rest w module locals x y := by
  cases h with
  | same => exact ⟨x, hx, .same x⟩
  | @text e u _ _ hq hwrites hlater hrest hu hv ht =>
    have hforward : ∀ m f, w₁.checkType use (.forward e.text m f) = .ok (.forward e.text m f) :=
      fun _ _ => checkType_eq_ok.mpr ⟨rfl, rfl⟩
    have hparses : asType use.module use.allowsForms (.str e.text) =
        .ok (.forward e.text use.module use.allowsForms) := by
      change (if (Expr.ofText? e.text).isSome then _ else _) = _
      rw [hwrites.parses]
      rfl
    have hcheck := (checkType_eq_ok.mp hx).1
    have hvalue : x = u ∨ ∃ m f, asType m f u = .ok x := by
      rcases hv with rfl | ⟨m, f, hv⟩
      · exact .inr ⟨_, _, hcheck⟩
      · refine .inr ⟨m, f, ?_⟩
        rw [hv, ← hcheck, asType_of_asType hv]
    rcases ht with rfl | ⟨m, f, rfl⟩
    · exact ⟨_, checkType_eq_ok.mpr ⟨hparses, rfl⟩,
        .text hq hwrites hlater hrest hu hvalue (.inr ⟨_, _, rfl⟩)⟩
    · exact ⟨_, hforward m f, .text hq hwrites hlater hrest hu hvalue (.inr ⟨m, f, rfl⟩)⟩

/-- An attribute, and the same with the annotation of its getter as text. -/
inductive PendsAttribute (later : List String) (w : World) (module : String) :
    Attribute → Attribute → Prop
  | same (a : Attribute) : PendsAttribute later w module a a
  | property {v t : Value} {b : Bool} (h : Pends (fun _ => True) later [] w module [] v t) :
      PendsAttribute later w module (.property (some ⟨some v, module⟩) b)
        (.property (some ⟨some t, module⟩) b)

theorem PendsAttribute.outline {a t : Attribute} (h : PendsAttribute later w module a t) :
    a.outline = t.outline := by
  cases h <;> rfl

theorem PendsAttribute.evolve {a t : Attribute} (h : PendsAttribute later w module a t)
    (he : w.Evolves later w') (hw : w.Closed) (hlater : ∀ n ∈ later', n ∈ later) :
    PendsAttribute later' w' module a t := by
  cases h with
  | same => exact .same a
  | property h =>
    refine .property (h.evolve he hw (fun _ hn => (List.not_mem_nil hn).elim)
      (fun _ _ _ _ _ => rfl) (fun _ h => h) hlater fun _ h => h)

end World

end TypeProjection.Annotation
