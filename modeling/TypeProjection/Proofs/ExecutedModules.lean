import TypeProjection.Proofs.ClassStatements

/-!
# What running definitions and imports makes

One lemma for each step: how running the definitions of a module makes the classes of its class
statements, and how an import runs modules of its own. A run that fails has made the classes of the
statements before the failure.
-/

namespace TypeProjection

open Annotation

namespace Definition

variable {α β : Type} {t : FileTree} {own : Option String} {paths paths' : List String}
  {w w' : World} {made : List ClassInfo}

/-- Where the module is found, the step runs a part of it that makes classes with the paths, or
fails after some of them. -/
def Traces (t : FileTree) (own : Option String) (paths : List String) (w : World) (m : Run α) :
    Prop :=
  (∀ module ∈ own, w.Finds module) →
    ∃ done made, done <+: paths ∧ w.Ran t own done (m.run.run w).2 made ∧
      ∀ a, (m.run.run w).1 = .ok a → done = paths

section Rules

variable {m : Run α}

theorem traces_same (h : (m.run.run w).2 = w) : Traces t own [] w m :=
  fun _ => ⟨[], [], List.prefix_refl _, by rw [h]; exact World.Ran.refl w, fun _ _ => rfl⟩

theorem traces_pure {a : α} : Traces t own [] w (pure a : Run α) := traces_same rfl

theorem traces_failing {f : Fault} : Traces t own paths w (failing f : Run α) :=
  fun _ => ⟨[], [], List.nil_prefix, World.Ran.refl w, fun _ h => nomatch h⟩

theorem traces_lifted {x : Except Fault α} : Traces t own [] w (lifted x) := by
  cases x with
  | error f => exact traces_failing
  | ok a => exact traces_pure

theorem Traces.bind {f : α → Run β} (hm : Traces t own paths w m)
    (hf : ∀ a w' made, w.Ran t own paths w' made → Traces t own paths' w' (f a)) :
    Traces t own (paths ++ paths') w (m >>= f) := by
  intro hown
  obtain ⟨done, made, hprefix, hran, hok⟩ := hm hown
  rw [run_bind]
  rcases hrun : m.run.run w with ⟨e | a, w'⟩
  · rw [hrun] at hran
    exact ⟨done, made, hprefix.trans (List.prefix_append _ _), hran, fun _ h => nomatch h⟩
  · rw [hrun] at hran hok
    obtain rfl := hok a rfl
    have hown' : ∀ module ∈ own, w'.Finds module := fun module hm => hran.finds (hown module hm)
    obtain ⟨done', made', hprefix', hran', hok'⟩ := hf a w' made hran hown'
    refine ⟨done ++ done', made ++ made', (List.prefix_append_right_inj _).mpr hprefix',
      hran.trans hown hran', fun b hb => ?_⟩
    rw [hok' b hb]

/-- A step that makes nothing, and another one. -/
theorem Traces.next {f : α → Run β} (hm : Traces t own [] w m)
    (hf : ∀ a w' made, w.Ran t own [] w' made → Traces t own paths w' (f a)) :
    Traces t own paths w (m >>= f) := hm.bind hf

/-- A step, and another one that makes nothing. -/
theorem Traces.last {f : α → Run β} (hm : Traces t own paths w m)
    (hf : ∀ a w' made, w.Ran t own paths w' made → Traces t own [] w' (f a)) :
    Traces t own paths w (m >>= f) := by
  have h := hm.bind hf
  rwa [List.append_nil] at h

theorem traces_look {f : World → Run β} (h : Traces t own paths w (f w)) :
    Traces t own paths w (get >>= f) := h

theorem traces_lifted_bind {x : Except Fault α} {f : α → Run β}
    (h : ∀ a, x = .ok a → Traces t own paths w (f a)) :
    Traces t own paths w (lifted x >>= f) := by
  cases x with
  | error e => exact traces_failing
  | ok a => exact h a rfl

theorem traces_modify {f : World → World} (h : (∀ module ∈ own, w.Finds module) →
    w.Ran t own [] (f w) []) : Traces t own [] w (modify f : Run Unit) :=
  fun hown => ⟨[], [], List.prefix_refl _, h hown, fun _ _ => rfl⟩

theorem traces_mapM {f : α → Run β} {xs : List α}
    (h : ∀ x ∈ xs, ∀ w, Traces t own [] w (f x)) : Traces t own [] w (xs.mapM f) := by
  induction xs generalizing w with
  | nil => exact traces_pure
  | cons x xs ih =>
    rw [List.mapM_cons]
    refine (h x (List.mem_cons_self ..) w).next fun _ w₁ _ _ => ?_
    refine (ih fun y hy => h y (List.mem_cons_of_mem _ hy)).next fun _ _ _ _ => ?_
    exact traces_pure

theorem traces_forM {f : α → Run Unit} {g : α → List String} {xs : List α}
    (h : ∀ x ∈ xs, ∀ w, Traces t own (g x) w (f x)) :
    Traces t own (xs.flatMap g) w (xs.forM f) := by
  induction xs generalizing w with
  | nil => exact traces_pure
  | cons x xs ih =>
    rw [List.flatMap_cons]
    refine (h x (List.mem_cons_self ..) w).bind fun _ w₁ _ _ => ?_
    exact ih fun y hy => h y (List.mem_cons_of_mem _ hy)

theorem traces_forM_nil {f : α → Run Unit} {xs : List α}
    (h : ∀ x ∈ xs, ∀ w, Traces t own [] w (f x)) : Traces t own [] w (xs.forM f) := by
  have hforM := traces_forM (g := fun _ => []) (w := w) h
  rwa [List.flatMap_eq_nil_iff.mpr fun _ _ => rfl] at hforM

theorem traces_tryCatch {f : Fault → Run α} (hm : Traces t own [] w m)
    (hf : ∀ e w', Traces t own [] w' (f e)) : Traces t own [] w (tryCatch m f) := by
  intro hown
  obtain ⟨done, made, hprefix, hran, -⟩ := hm hown
  obtain rfl := List.prefix_nil.mp hprefix
  rw [run_tryCatch]
  rcases hrun : m.run.run w with ⟨e | a, w'⟩
  · rw [hrun] at hran
    have hown' : ∀ module ∈ own, w'.Finds module := fun module hm => hran.finds (hown module hm)
    obtain ⟨done', made', hprefix', hran', -⟩ := hf e w' hown'
    obtain rfl := List.prefix_nil.mp hprefix'
    exact ⟨[], made ++ made', List.prefix_refl _, hran.trans hown hran', fun _ _ => rfl⟩
  · rw [hrun] at hran
    exact ⟨[], made, List.prefix_refl _, hran, fun _ _ => rfl⟩

end Rules

/-! Steps of the world. -/

theorem ran_of_same (hclasses : w'.classes = w.classes) (hmodules : w'.modules = w.modules)
    (hcurrent : w'.current = w.current) : w.Ran t own [] w' [] := by
  have h : w.Ran t own [] w [] := World.Ran.refl w
  constructor
  · rw [hclasses]
    exact h.classes
  · exact h.ownPaths
  · rw [hmodules]
    exact h.others
  · rw [hcurrent]
    exact h.current
  · rw [hmodules]
    exact h.modules
  · rw [hmodules]
    exact h.names
  · rw [hcurrent, hmodules]
    exact h.found
  · rw [hmodules]
    exact h.unversioned
  · rw [hmodules]
    exact h.logged

/-- A change of one module entry. Its names stay, unless it is the module's own or a package's. -/
theorem ran_modify {i : Nat} {f : LoadedModule → LoadedModule}
    (hsame : ∀ m, World.SameModule m (f m))
    (hnames : ∀ m, w.modules[i]? = some m → m.folders = none →
      (∀ module ∈ own, w.current.lookup module ≠ some i) → (f m).names = m.names) :
    w.Ran t own [] { w with modules := w.modules.modify i f } [] where
  classes := (List.append_nil _).symm
  ownPaths _ _ := rfl
  others _ hc := (List.not_mem_nil hc).elim
  current _ _ h := h
  modules j m hm := by
    rw [Array.getElem?_modify, hm]
    split
    · exact ⟨f m, rfl, hsame m⟩
    · exact ⟨m, rfl, World.SameModule.refl m⟩
  names j m hm hfolders hother := by
    rw [Array.getElem?_modify, hm]
    split
    · next hij =>
      subst hij
      exact ⟨f m, rfl, hnames m hm hfolders hother⟩
    · exact ⟨m, rfl, rfl⟩
  found _ _ h := .inl h
  unversioned j m hj hm := by
    have hlt := (Array.getElem?_eq_some_iff.mp hm).1
    rw [Array.size_modify] at hlt
    omega
  logged _ j m _ hj hm _ := by
    have hlt := (Array.getElem?_eq_some_iff.mp hm).1
    rw [Array.size_modify] at hlt
    omega

theorem ran_changeModule {module : String} {f : LoadedModule → LoadedModule}
    (hsame : ∀ m, World.SameModule m (f m))
    (hnames : ∀ i m, w.current.lookup module = some i → w.modules[i]? = some m →
      m.folders = none → (∀ n ∈ own, w.current.lookup n ≠ some i) → (f m).names = m.names) :
    w.Ran t own [] (w.changeModule module f) [] := by
  unfold World.changeModule
  split
  · next i hi => exact ran_modify hsame fun m hm => hnames i m hi hm
  · exact World.Ran.refl w

/-- A new class of the module. -/
theorem ran_pushClass {module : String} {info : ClassInfo} (h : info.module = module) :
    w.Ran t (some module) [info.path] { w with classes := w.classes.push info } [info] where
  classes := Array.toList_push
  ownPaths n hn := by
    obtain rfl : module = n := Option.some.inj hn
    simp [pathsIn, h]
  others c hc hmem := by
    rw [List.mem_singleton.mp hc, h] at hmem
    exact (hmem rfl).elim
  current _ _ h := h
  modules _ m hm := ⟨m, hm, World.SameModule.refl m⟩
  names _ m hm _ _ := ⟨m, hm, rfl⟩
  found _ _ h := .inl h
  unversioned i m hi hm := by
    have hlt : i < w.modules.size := (Array.getElem?_eq_some_iff.mp hm).1
    omega
  logged _ i m _ hi hm _ := by
    have hlt : i < w.modules.size := (Array.getElem?_eq_some_iff.mp hm).1
    omega

/-! Values. -/

section Values

variable {s : Setting} {p : Spot} {text : String}

theorem traces_sourceExpression : Traces t own [] w (sourceExpression text) := by
  unfold sourceExpression
  split
  · exact traces_pure
  · exact traces_failing

theorem traces_valueOf {e : Annotation.Expr} : Traces t own [] w (valueOf s p e) :=
  traces_look (traces_look traces_lifted)

theorem traces_valueOfText : Traces t own [] w (valueOfText s p text) :=
  traces_sourceExpression.next fun _ _ _ _ => traces_valueOf

theorem traces_annotationAt : Traces t own [] w (annotationAt s p text) := by
  refine traces_sourceExpression.next fun e _ _ _ => ?_
  split
  · exact traces_pure
  · exact traces_valueOf

theorem traces_newTypeVar {name : String} {variance : Variance} {alternatives : List Value}
    {bound : Option Value} {b : Bool} :
    Traces t own [] w (newTypeVar s name variance alternatives bound b) := by
  refine traces_look ?_
  extract_lets rest
  have hrest : ∀ o, Traces t own [] w (rest o) := by
    intro o
    unfold rest
    split
    · exact traces_failing
    split
    · exact traces_failing
    refine traces_lifted_bind fun types _ => ?_
    exact fun _ => ⟨[], [], List.prefix_refl _, ran_of_same rfl rfl rfl, fun _ _ => rfl⟩
  split
  · exact hrest none
  · exact hrest none
  · exact traces_lifted_bind fun v _ => hrest (some v)

theorem traces_called {callee : Value} {arguments : List Value} {words : List (String × Value)} :
    Traces t own [] w (called s callee arguments words) := by
  unfold called
  split
  · exact fun _ => ⟨[], [], List.prefix_refl _, ran_of_same rfl rfl rfl, fun _ _ => rfl⟩
  · exact traces_newTypeVar
  · exact fun _ => ⟨[], [], List.prefix_refl _, ran_of_same rfl rfl rfl, fun _ _ => rfl⟩
  · refine (traces_modify fun _ => ?_).next fun _ _ _ _ => traces_pure
    exact ran_of_same rfl rfl rfl
  · exact traces_look traces_lifted

theorem traces_words (named : List (String × Annotation.Expr)) :
    Traces t own [] w (named.mapM fun n => do return (n.1, ← valueOf s p n.2)) :=
  traces_mapM fun _ _ _ => traces_valueOf.next fun _ _ _ _ => traces_pure

theorem traces_assignedValue : Traces t own [] w (assignedValue s p text) := by
  refine traces_sourceExpression.next fun e _ _ _ => ?_
  split
  · refine traces_valueOf.next fun _ _ _ _ => ?_
    refine (traces_mapM fun _ _ _ => traces_valueOf).next fun _ _ _ _ => ?_
    exact (traces_words _).next fun _ _ _ _ => traces_called
  · exact traces_valueOf

theorem traces_assignedAttribute : Traces t own [] w (assignedAttribute s p text) := by
  refine traces_sourceExpression.next fun e w₁ _ _ => ?_
  have hvalue : ∀ w',
      Traces t own [] w' (do return .value (← assignedValue s p text) : Run Attribute) :=
    fun _ => traces_assignedValue.next fun _ _ _ _ => traces_pure
  split
  · refine traces_valueOf.next fun f w₂ _ _ => ?_
    split
    case h_3 => exact hvalue w₂
    all_goals
      refine (traces_mapM fun _ _ _ => traces_valueOf).next fun vs _ _ _ => ?_
      refine (traces_words _).next fun words _ _ _ => ?_
      dsimp only
      split <;> exact traces_pure
  · exact hvalue w₁

theorem traces_dataOptions : Traces t own [] w (dataOptions? s p text) := by
  refine traces_sourceExpression.next fun e _ _ _ => ?_
  split
  · refine traces_valueOf.next fun f _ _ _ => ?_
    split
    · exact (traces_words _).next fun _ _ _ _ => traces_pure
    · exact traces_pure
  · refine traces_valueOf.next fun f _ _ _ => ?_
    split <;> exact traces_pure

theorem traces_headerWords : Traces t own [] w (headerWords s p text) := by
  unfold headerWords
  split
  · exact traces_pure
  · refine traces_sourceExpression.next fun e _ _ _ => ?_
    split
    · exact traces_words _
    · exact traces_pure

theorem traces_runProperty {kind : PropertyKind} {returns : Option String} :
    Traces t own [] w (runProperty s p kind returns) := by
  unfold runProperty
  extract_lets make
  have hmake : ∀ shown w', Traces t own [] w' (make shown) := fun _ _ => traces_pure
  split
  · exact hmake none w
  · exact traces_annotationAt.next fun v w' _ _ => hmake (some v) w'

end Values

/-! Definitions. -/

section Definitions

variable {s : Setting} {p : Spot}

/-- To add a class of the module makes one class. -/
theorem traces_adding {module path : String} {make : World → Except Fault ClassInfo}
    (h : Gives (make w) fun info => info.module = module ∧ info.path = path) :
    Traces t (some module) [path] w (adding make) := by
  refine traces_look (traces_lifted_bind fun info hinfo => ?_)
  obtain ⟨hmodule, hpath⟩ := h info hinfo
  let made : ClassInfo := { info with
    ancestors := .declared w.classes.size ::
      (World.orderOf? info.bases (info.bases.map w.ancestorsOf)).getD [] }
  have hran : w.Ran t (some module) [path] { w with classes := w.classes.push made } [made] :=
    hpath ▸ (ran_pushClass hmodule : w.Ran t (some module) [made.path] _ [made])
  exact fun _ => ⟨[path], [made], List.prefix_refl _, hran, fun _ _ => rfl⟩

theorem traces_runEnum {d : EnumDefinition} :
    Traces t (some s.module) [p.pathOf (Text.normalForm d.name)] w (runEnum s p d) := by
  rw [runEnum_eq]
  refine traces_valueOfText.next fun v w' _ _ => traces_adding ?_
  intro info hinfo
  obtain ⟨h, hh, hrest⟩ := World.bind_eq_ok.mp hinfo
  obtain ⟨members, -, hrest⟩ := World.bind_eq_ok.mp hrest
  obtain ⟨_, -, hrest⟩ := World.bind_eq_ok.mp hrest
  cases hrest
  exact headerOf_eq_ok hh

theorem traces_finishClass {h : Header} {body : Body} {options : List (Option DataOptions)} :
    Traces t (some h.module) [h.path] w (finishClass h body options) := by
  rw [finishClass_eq]
  exact traces_adding (made_finished.mono fun _ hmade => ⟨hmade.module, hmade.path⟩)

mutual

theorem traces_runClass (p : Spot) (w : World) :
    (d : ClassDefinition) → Traces t (some s.module) (d.paths p.path) w (runClass s p d)
  | .mk written bases decorators header body => by
    rw [runClass, ClassDefinition.paths]
    refine (traces_mapM fun _ _ _ => traces_dataOptions).next fun options _ _ _ => ?_
    refine (traces_mapM fun _ _ _ => traces_valueOfText).next fun values _ _ _ => ?_
    refine traces_headerWords.next fun words w₁ _ _ => ?_
    refine traces_look (traces_lifted_bind fun h hh => ?_)
    obtain ⟨hmodule, hpath⟩ := headerOf_eq_ok hh
    extract_lets here
    have hbody : Traces t (some s.module) (BodyItem.pathsOfAll (p.path ++ [Text.normalForm written])
      body) w₁ (runBody s here ⟨[], []⟩ body) := traces_runBody here _ w₁ body
    refine hbody.bind fun contents w₂ _ _ => ?_
    have hfinish : Traces t (some h.module) [h.path] w₂ (finishClass h contents options) :=
      traces_finishClass
    rwa [hmodule, hpath] at hfinish

theorem traces_runBody (p : Spot) (done : Body) (w : World) : (body : List BodyItem) →
    Traces t (some s.module) (BodyItem.pathsOfAll p.path body) w (runBody s p done body)
  | [] => by
    rw [runBody, BodyItem.pathsOfAll]
    exact traces_pure
  | item :: rest => by
    rw [runBody, BodyItem.pathsOfAll]
    have hitem : ∀ locals, Traces t (some s.module) (item.paths p.path) w
        (runItem s { p with locals := locals } done item) :=
      fun locals => traces_runItem { p with locals := locals } done w item
    exact (hitem _).bind fun more w' _ _ => traces_runBody p more w' rest

theorem traces_runItem (p : Spot) (done : Body) (w : World) : (item : BodyItem) →
    Traces t (some s.module) (item.paths p.path) w (runItem s p done item)
  | .field written annotation none => by
    rw [runItem, pure_bind]
    exact traces_annotationAt.next fun _ _ _ _ => traces_pure
  | .field written annotation (some text) => by
    rw [runItem]
    refine traces_assignedAttribute.next fun a _ _ _ => ?_
    rw [pure_bind]
    exact traces_annotationAt.next fun _ _ _ _ => traces_pure
  | .assignment written text => by
    rw [runItem]
    exact traces_assignedAttribute.next fun _ _ _ _ => traces_pure
  | .property kind written returns => by
    rw [runItem]
    exact traces_runProperty.next fun _ _ _ _ => traces_pure
  | .writeOnly written => by
    rw [runItem]
    exact traces_pure
  | .method written isAbstract => by
    rw [runItem]
    exact traces_pure
  | .cls d => by
    rw [runItem, BodyItem.paths]
    exact (traces_runClass p w d).last fun _ _ _ _ => traces_pure
  | .enum d => by
    rw [runItem, BodyItem.paths]
    exact traces_runEnum.last fun _ _ _ _ => traces_pure

end

theorem traces_bind {name : String} {v : Value} :
    Traces t (some s.module) [] w (bind s name v) := by
  refine traces_modify fun _ => ran_changeModule (fun _ => ⟨rfl, rfl, rfl, rfl⟩) ?_
  intro i m hi hm hfolders hother
  exact (hother s.module rfl hi).elim

theorem traces_runVariable {d : VariableDefinition} :
    Traces t (some s.module) [] w (runVariable s d) := by
  refine (traces_mapM fun _ _ _ => traces_valueOfText).next fun alternatives _ _ _ => ?_
  extract_lets make
  have hmake : ∀ bound w', Traces t (some s.module) [] w' (make bound) := fun _ _ =>
    traces_newTypeVar.next fun _ _ _ _ => traces_bind
  split
  · rw [pure_bind]
    exact hmake _ _
  · refine traces_valueOfText.next fun v _ _ _ => ?_
    rw [pure_bind]
    exact hmake _ _

theorem traces_runDefinition (hi : ∀ module names w, Traces t (some s.module) [] w
    (s.importFrom module names)) (w : World) : (item : ModuleItem) →
    Traces t (some s.module) item.paths w (runDefinition s item)
  | .cls d => (traces_runClass .outside w d).last fun _ _ _ _ => traces_bind
  | .enum d => by
    have henum : Traces t (some s.module) (ModuleItem.enum d).paths w (runEnum s .outside d) :=
      traces_runEnum (p := .outside) (d := d)
    exact henum.last fun _ _ _ _ => traces_bind
  | .typeVar d => traces_runVariable
  | .newType name supertype => by
    refine traces_valueOfText.next fun v _ _ _ => ?_
    refine Traces.next ?_ fun _ _ _ _ => traces_bind
    exact fun _ => ⟨[], [], List.prefix_refl _, ran_of_same rfl rfl rfl, fun _ _ => rfl⟩
  | .alias name text => traces_assignedValue.next fun _ _ _ _ => traces_bind
  | .imports module names =>
    (hi module names w).next fun _ _ _ _ => traces_forM_nil fun _ _ _ => traces_bind
  | .raising _ => traces_failing

/-- Running the definitions of a module makes the classes of its class statements. -/
theorem traces_runDefinitions (hi : ∀ module names w, Traces t (some s.module) [] w
    (s.importFrom module names)) (definitions : List ModuleItem) :
    Traces t (some s.module) (definitions.flatMap ModuleItem.paths) w
      (runDefinitions s definitions) := by
  refine (traces_forM_nil fun _ _ _ => traces_bind).next fun _ w' _ _ => ?_
  exact traces_forM fun item _ w => traces_runDefinition hi w item

end Definitions

end Definition

/-! Modules. -/

section Modules

open SearchPath Definition

variable {α : Type} {t : FileTree} {own : Option String} {paths done : List String}
  {w w' : World} {made : List ClassInfo} {m : LoadedModule} {module name : String} {s : SearchPath}

theorem current_addModule (w : World) (m : LoadedModule) (name : String) :
    (w.addModule m).current.lookup name =
      if name = m.name then some w.modules.size else w.current.lookup name := by
  unfold World.addModule
  dsimp only
  rw [lookup_putPair]

theorem current_forgetModule (w : World) (module name : String) :
    (w.forgetModule module).current.lookup name =
      if name = module then none else w.current.lookup name := by
  unfold World.forgetModule
  dsimp only
  rw [lookup_filter (fun n => n != module)]
  by_cases h : name = module <;> simp [h]

theorem finds_addModule (w : World) (m : LoadedModule) : (w.addModule m).Finds m.name := by
  refine ⟨w.modules.size, m, ?_, ?_, rfl⟩
  · rw [current_addModule, if_pos rfl]
  · rw [World.addModule, Array.getElem?_push_size]

/-- A new module that has been run on. Its own classes are those of its file. -/
theorem Annotation.World.Ran.of_added (hown : ∀ module ∈ own, w.Finds module)
    (hnew : w.current.lookup m.name = none) (hversion : m.version = none)
    (hfile : ∀ f, m.file = some f → ∃ p, f = absolute p ∧ done <+: t.classStatements p)
    (hmade : m.file = none → made = [])
    (h : (w.addModule m).Ran t (some m.name) done w' made) : w.Ran t own [] w' made := by
  have hsize : (w.addModule m).modules.size = w.modules.size + 1 := Array.size_push ..
  have hadded : (w.addModule m).modules[w.modules.size]? = some m := Array.getElem?_push_size
  have hcurrent : ∀ n i, w.current.lookup n = some i → (w.addModule m).current.lookup n = some i := by
    intro n i hn
    rw [current_addModule, if_neg, hn]
    rintro rfl
    rw [hnew] at hn
    cases hn
  have hold : ∀ {i : Nat} {n : LoadedModule}, w.modules[i]? = some n →
      (w.addModule m).modules[i]? = some n := by
    intro i n hn
    have hlt := (Array.getElem?_eq_some_iff.mp hn).1
    rw [World.addModule, Array.getElem?_push, if_neg (by omega)]
    exact hn
  obtain ⟨m', hm', hsame⟩ := h.modules _ m hadded
  have hothers : ∀ c ∈ made, w.current.lookup c.module = none ∧ ∃ (i : Nat) (m : LoadedModule),
      w.modules.size ≤ i ∧ w'.modules[i]? = some m ∧ m.name = c.module ∧ m.file.isSome = true := by
    intro c hc
    by_cases hname : c.module = m.name
    · have hsome : m'.file.isSome = true := by
        rw [hsame.file, Option.isSome_iff_ne_none]
        intro hnone
        rw [hmade hnone] at hc
        exact (List.not_mem_nil hc).elim
      exact ⟨hname ▸ hnew, _, m', Nat.le_refl _, hm', hsame.name.trans hname.symm, hsome⟩
    · obtain ⟨hnone, i, n, hi, hn, hnname⟩ :=
        h.others c hc fun hmem => hname (Option.some.inj hmem).symm
      refine ⟨?_, i, n, by omega, hn, hnname⟩
      rcases hlookup : w.current.lookup c.module with _ | j
      · rfl
      · rw [hcurrent _ _ hlookup] at hnone
        cases hnone
  exact {
    classes := h.classes
    ownPaths := by
      intro n hn
      refine pathsIn_eq_nil fun c hc hcn => ?_
      obtain ⟨i, -, hi, -, -⟩ := hown n hn
      have hnone := (hothers c hc).1
      rw [hcn, hi] at hnone
      cases hnone
    others := fun c hc _ => hothers c hc
    current := fun n i hn => h.current n i (hcurrent n i hn)
    modules := fun i n hn => h.modules i n (hold hn)
    names := by
      intro i n hn hfolders _
      refine h.names i n (hold hn) hfolders fun module hmem hi => ?_
      obtain rfl : m.name = module := Option.some.inj hmem
      rw [current_addModule, if_pos rfl] at hi
      have hlt := (Array.getElem?_eq_some_iff.mp hn).1
      have heq := Option.some.inj hi
      omega
    found := by
      intro n i hi
      rcases h.found n i hi with hi | ⟨hle, hn⟩
      · rw [current_addModule] at hi
        split at hi
        · next hname =>
          cases hi
          exact .inr ⟨Nat.le_refl _, m', hm', hsame.name.trans hname.symm⟩
        · exact .inl hi
      · exact .inr ⟨by omega, hn⟩
    unversioned := by
      intro i n hi hn
      rcases Nat.eq_or_lt_of_le hi with rfl | hlt
      · obtain rfl : m' = n := Option.some.inj (hm'.symm.trans hn)
        exact hsame.version.trans hversion
      · exact h.unversioned i n (by omega) hn
    logged := by
      intro hnodup i n f hi hn hf
      rcases Nat.eq_or_lt_of_le hi with rfl | hlt
      · obtain rfl : m' = n := Option.some.inj (hm'.symm.trans hn)
        obtain ⟨p, hp, hprefix⟩ := hfile f (hsame.file.symm.trans hf)
        refine ⟨p, hp, ?_⟩
        rw [hsame.name, h.ownPaths m.name rfl]
        exact hprefix
      · exact h.logged hnodup i n f (by omega) hn hf }

theorem Annotation.World.Ran.forget (h : w.Ran t own paths w' made)
    (hnew : w.current.lookup module = none) :
    w.Ran t own paths (w'.forgetModule module) made :=
  { h with
    current := by
      intro n i hn
      rw [current_forgetModule, if_neg, h.current n i hn]
      rintro rfl
      rw [hnew] at hn
      cases hn
    found := by
      intro n i hi
      rw [current_forgetModule] at hi
      split at hi
      · cases hi
      · exact h.found n i hi }

theorem run_launch (m : LoadedModule) (body : Run Unit) (w : World) :
    (launch m body).run.run w =
      match body.run.run (w.addModule m) with
      | (.ok _, w') => (.ok (), w'.changeModule m.name fun m => { m with isReady := true })
      | (.error f, w') => (.error f, w'.forgetModule m.name) := by
  have hmodify : ∀ (f : World → World) (w : World),
      (modify f : Run Unit).run.run w = (.ok (), f w) := fun _ _ => rfl
  unfold launch
  rw [run_bind, hmodify]
  dsimp only
  rw [run_bind, run_tryCatch]
  rcases body.run.run (w.addModule m) with ⟨e | ⟨⟩, w'⟩
  · dsimp only
    rw [run_bind, hmodify]
    rfl
  · rfl

theorem traces_launch {p : Place} {body : Run Unit} (hnew : w.current.lookup m.name = none)
    (hversion : m.version = none) (hfile : m.file = some (absolute p))
    (hbody : ∀ w', Traces t (some m.name) (t.classStatements p) w' body) :
    Traces t own [] w (launch m body) := by
  intro hown
  have hfind : ∀ module ∈ some m.name, (w.addModule m).Finds module := by
    intro module hmem
    obtain rfl : m.name = module := Option.some.inj hmem
    exact finds_addModule w m
  obtain ⟨done, made, hprefix, hran, -⟩ := hbody _ hfind
  have hadded : w.Ran t own [] ((body.run.run (w.addModule m)).2) made :=
    hran.of_added hown hnew hversion (fun f hf => ⟨p, Option.some.inj (hf.symm.trans hfile), hprefix⟩)
      fun hnone => by rw [hfile] at hnone; cases hnone
  refine ⟨[], made, List.prefix_refl _, ?_, fun _ _ => rfl⟩
  rw [run_launch]
  rcases hrun : body.run.run (w.addModule m) with ⟨e | ⟨⟩, w'⟩
  · rw [hrun] at hadded
    exact hadded.forget hnew
  · rw [hrun] at hadded
    have hown' : ∀ module ∈ own, w'.Finds module := fun module hm => hadded.finds (hown module hm)
    have hready : w'.Ran t own [] (w'.changeModule m.name fun m => { m with isReady := true }) [] :=
      ran_changeModule (fun _ => ⟨rfl, rfl, rfl, rfl⟩) fun _ _ _ _ _ _ => rfl
    simpa using hadded.trans hown hready

/-! Imports. -/

theorem traces_importedName : Traces t own [] w (importedName module name) := by
  refine traces_look ?_
  split
  · exact traces_pure
  · dsimp only
    split
    · exact traces_pure
    · exact traces_failing

/-- Running a file as a module makes the classes of its class statements. -/
theorem traces_execute {importFrom : String → List String → Run (List Value)}
    (hi : ∀ written names w, Traces t (some module) [] w (importFrom written names))
    {content : FileContent} :
    Traces t (some module) content.classStatements w (execute importFrom module content) := by
  cases content with
  | bytes => exact traces_pure
  | definitions d => exact traces_runDefinitions (s := ⟨module, d.postponed, importFrom⟩) hi _

theorem traces_load {importFrom : String → List String → Run (List Value)}
    (hi : ∀ written names w, Traces s.tree (some module) [] w (importFrom written names))
    (hnew : w.current.lookup module = none) {found : Found} :
    Traces s.tree own [] w (load s importFrom module found) := by
  cases found with
  | source file folders => exact traces_launch hnew rfl rfl fun _ => traces_execute hi
  | compiled => exact traces_failing
  | portions folders =>
    exact traces_modify fun hown => (World.Ran.refl _).of_added hown hnew rfl (fun _ h => by cases h)
      fun _ => rfl

/-- A module is a package. -/
def IsPackage (w : World) (module : String) : Prop :=
  ∃ m, w.loaded? module = some m ∧ m.folders.isSome = true

theorem Annotation.World.Ran.isPackage (h : w.Ran t own paths w' made) (hp : IsPackage w module) :
    IsPackage w' module := by
  obtain ⟨m, hm, hfolders⟩ := hp
  obtain ⟨i, hi, hm⟩ := Option.bind_eq_some_iff.mp hm
  obtain ⟨m', hm', hsame⟩ := h.modules i m hm
  exact ⟨m', Option.bind_eq_some_iff.mpr ⟨i, h.current _ i hi, hm'⟩, hsame.folders ▸ hfolders⟩

/-- Submodules are looked for in packages only. -/
theorem isPackage_of_foldersOf {package : String} {folders : List Place}
    (h : s.foldersOf w module (some package) = .ok folders) : IsPackage w package := by
  unfold foldersOf at h
  dsimp only at h
  split at h
  · next m hm =>
    split at h
    · next hfolders => exact ⟨m, hm, by rw [hfolders]; rfl⟩
    · cases h
  · split at h <;> cases h

theorem traces_attach (hp : ∀ package, (cutLast module).1 = some package → IsPackage w package) :
    Traces t own [] w (attach module) := by
  unfold attach
  split
  · next package name hcut =>
    refine traces_modify fun _ => ran_changeModule (fun _ => ⟨rfl, rfl, rfl, rfl⟩) ?_
    intro i m hi hm hfolders _
    obtain ⟨m', hm', hsome⟩ := hp package (by rw [hcut])
    rw [World.loaded?, hi, Option.bind_some, hm] at hm'
    cases hm'
    rw [hfolders] at hsome
    cases hsome
  · exact traces_pure

theorem traces_importIfMissing {importNamed : String → Run Unit}
    (hi : ∀ own module w, Traces t own [] w (importNamed module)) {package : String} :
    Traces t own [] w (importIfMissing importNamed package name) := by
  refine traces_look ?_
  extract_lets isPackage full
  split
  · refine traces_tryCatch (hi own full w) fun f w' => ?_
    split
    · exact traces_pure
    · exact traces_failing
  · exact traces_pure

theorem traces_importWith {importNamed : String → Run Unit}
    (hi : ∀ own module w, Traces t own [] w (importNamed module)) {importer written : String}
    {names : List String} : Traces t own [] w (importWith importNamed importer written names) := by
  refine traces_look (traces_lifted_bind fun source _ => ?_)
  refine (hi own source w).next fun _ _ _ _ => ?_
  refine (traces_forM_nil fun _ _ _ => traces_importIfMissing hi).next fun _ _ _ _ => ?_
  exact traces_mapM fun _ _ _ => traces_importedName

/-- An import runs modules of its own only. -/
theorem traces_importNamed (n : Nat) (own : Option String) (module : String) (w : World) :
    Traces s.tree own [] w (s.importNamed n module) := by
  induction n generalizing own module w with
  | zero => exact traces_failing
  | succ n ih =>
    rw [importNamed]
    split
    · exact traces_failing
    refine traces_look ?_
    split
    · exact traces_pure
    rcases hcut : cutLast module with ⟨package, name⟩
    simp -zeta only
    extract_lets find
    have hfind : ∀ w', Traces s.tree own [] w' (find ()) := by
      intro w'
      refine traces_look ?_
      split
      · exact traces_pure
      next hknown =>
      have hnew : w'.current.lookup module = none := by
        rw [isKnown, Bool.or_eq_true, not_or] at hknown
        exact Option.not_isSome_iff_eq_none.mp hknown.1
      refine traces_look (traces_lifted_bind fun folders hfolders => ?_)
      split
      · exact traces_failing
      · next found hfound =>
        refine (traces_load (fun _ _ _ => traces_importWith ih) hnew).next fun _ w'' _ hran => ?_
        refine traces_attach fun p hp => hran.isPackage ?_
        obtain rfl : package = some p := by rw [← hp, hcut]
        exact isPackage_of_foldersOf hfolders
    cases package with
    | some p => exact (ih own p w).next fun _ w' _ _ => hfind w'
    | none => exact hfind w

theorem traces_importFrom {importer written : String} {names : List String} :
    Traces s.tree own [] w (s.importFrom importer written names) :=
  traces_importWith fun own module w => traces_importNamed _ own module w

end Modules

end TypeProjection
