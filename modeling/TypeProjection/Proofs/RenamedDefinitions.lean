import TypeProjection.Proofs.RenamedSteps
import TypeProjection.Proofs.TwinModules

/-!
# Definitions under other serials

The definitions of a module make the same in another world, under other serials: classes with their
bodies, enumerations, variables, and the names that the module gives to all of these.
-/

namespace TypeProjection.Definition

open Annotation World
open Value (AllHomely)

variable {T : Track} {w w' : World} {s s' : Setting} {p : Spot} {text : String} {v : Value}
  {ρ : Renaming} {K : String → Prop}

/-! ### Classes that are added -/

theorem headerOf_congr (hs : s'.module = s.module) (w : World) (p : Spot) (name : String)
    (written : List Value) (words : List (String × Value)) :
    headerOf w s' p name written words = headerOf w s p name written words := by
  unfold headerOf
  rw [hs]

theorem homely_withAncestors {info : ClassInfo} (hi : info.Homely K) (order : List ClassRef) :
    ClassInfo.Homely K { info with ancestors := order } :=
  ⟨hi.module, hi.writtenBases, hi.parameters, hi.annotations, hi.attributes⟩

theorem orders_rename (hw : w.Renames ρ K w') (bases : List ClassRef) :
    (World.orderOf? (bases.map (ClassRef.rename ρ))
        ((bases.map (ClassRef.rename ρ)).map w'.ancestorsOf)).getD [] =
      ((World.orderOf? bases (bases.map w.ancestorsOf)).getD []).map (ClassRef.rename ρ) := by
  have horders : (bases.map (ClassRef.rename ρ)).map w'.ancestorsOf =
      (bases.map w.ancestorsOf).map (List.map (ClassRef.rename ρ)) := by
    rw [List.map_map, List.map_map]
    exact List.map_congr_left fun c _ => hw.ancestorsOf
  rw [horders, orderOf_rename]
  cases World.orderOf? bases (bases.map w.ancestorsOf) <;> rfl

theorem sends_decorated (hw : w.Renames ρ K w') {info : ClassInfo} (hi : info.Homely K)
    (options : List (Option DataOptions)) :
    Sends (ClassInfo.rename ρ) (ClassInfo.Homely K) (decorated w options info)
      (decorated w' options (info.rename ρ)) := by
  have hfold : Sends (ClassInfo.rename ρ) (ClassInfo.Homely K) (decorated w options info)
      (decorated w' (options.map id) (info.rename ρ)) :=
    sends_foldlM (fun o _ info hi => ?_) hi
  · rw [List.map_id] at hfold
    exact hfold
  · cases o with
    | none => exact sends_ok hi
    | some o => exact sends_makeDataClass hw hi

theorem sends_finished (hw : w.Renames ρ K w') {h : Header} (hh : h.Homely K) {body : Body}
    (hb : body.Homely K) (options : List (Option DataOptions)) :
    Sends (ClassInfo.rename ρ) (ClassInfo.Homely K) (finished w h body options)
      (finished w' (h.rename ρ) (body.rename ρ) options) := by
  refine (sends_buildClass hw hh hb).bind fun info hi => ?_
  dsimp only
  have hbases : (info.rename ρ).bases = info.bases.map (ClassRef.rename ρ) := rfl
  rw [hbases, orders_rename hw]
  exact sends_decorated hw (homely_withAncestors hi _) options.reverse

theorem sends_enumerated (hw : w.Renames ρ K w') (hs : s'.module = s.module) (hm : K s.module)
    {d : EnumDefinition} {written : List Value} (hwritten : AllHomely K written) :
    Sends (ClassInfo.rename ρ) (ClassInfo.Homely K) (enumerated s p d written w)
      (enumerated s' (p.rename ρ) d (written.map (Value.rename ρ)) w') := by
  unfold enumerated
  rw [headerOf_congr hs]
  have hheader : Sends (Header.rename ρ) (Header.Homely K)
      (headerOf w s p (Text.normalForm d.name) written [])
      (headerOf w' s (p.rename ρ) (Text.normalForm d.name) (written.map (Value.rename ρ)) []) :=
    sends_headerOf hw hm rfl hwritten
  refine hheader.bind fun h hh => ?_
  rw [bases_rename]
  have hname : (h.rename ρ).name = h.name := rfl
  rw [hname, enumMembers_rename hw]
  refine (sends_same _).bind fun members _ => ?_
  refine (sends_lookupOrder hw h.bases).bind fun _ _ => ?_
  have hbases : (if h.replaced then written.map (Value.rename ρ)
      else (h.bases.map (ClassRef.rename ρ)).map Value.cls) =
      (if h.replaced then written else h.bases.map Value.cls).map (Value.rename ρ) := by
    cases h.replaced with
    | false => simp
    | true => rfl
  have hhomely : AllHomely K (if h.replaced then written else h.bases.map Value.cls) := by
    split
    · exact hwritten
    · intro v hv
      obtain ⟨c, -, rfl⟩ := List.mem_map.mp hv
      exact Value.homely_cls
  have hnone : ∀ {α : Type} {P : α → Prop}, ∀ x ∈ ([] : List α), P x :=
    fun _ h => (List.not_mem_nil h).elim
  have hreplaced : (h.rename ρ).replaced = h.replaced := rfl
  rw [hreplaced, hbases]
  exact sends_pure (f := ClassInfo.rename ρ) ⟨hh.module, hhomely, hnone, hnone, hnone⟩

/-- The spot behind what a body holds already. -/
def Spot.within (p : Spot) (s : Setting) (body : Body) : Spot :=
  { p with locals := attributeValues s (String.intercalate "." p.path) body.attributes }

namespace Track

theorem carries_adding {make make' : World → Except Fault ClassInfo}
    (h : T.Follows w w' →
      Sends (ClassInfo.rename T.serials) (ClassInfo.Homely T.homes) (make w) (make' w')) :
    T.CarriesValue w w' (adding make) (adding make') := by
  refine carries_of_follows fun hw => carries_look ?_
  refine carries_lifted_bind (h hw) fun info hi => ?_
  have hsize : T.serials.cls w.classes.size = w'.classes.size := hw.renames.nextClass 0
  refine carries_set Value.homely_cls ?_ fun hw => ?_
  · rw [Value.rename_cls]
    exact congrArg (fun i => Value.cls (.declared i)) hsize.symm
  · have hadded : ClassInfo.rename T.serials { info with
          ancestors := .declared w.classes.size ::
            (World.orderOf? info.bases (info.bases.map w.ancestorsOf)).getD [] } =
        { info.rename T.serials with
          ancestors := .declared w'.classes.size ::
            (World.orderOf? (info.rename T.serials).bases
              ((info.rename T.serials).bases.map w'.ancestorsOf)).getD [] } := by
      have hbases : (info.rename T.serials).bases = info.bases.map (ClassRef.rename T.serials) := rfl
      rw [hbases, orders_rename hw.renames, ← hsize]
      rfl
    have hrenames := renames_pushClass hw.renames (homely_withAncestors hi
      (.declared w.classes.size ::
        (World.orderOf? info.bases (info.bases.map w.ancestorsOf)).getD []))
    rw [hadded] at hrenames
    exact ⟨⟨hrenames, hw.names, hw.left, hw.right⟩, .of_same rfl rfl rfl⟩

/-! ### Bodies -/

theorem attributeValues_renamed (hs : s'.module = s.module) (path : String)
    (attributes : List (String × Attribute)) :
    attributeValues s' path (renamedAttributes ρ attributes) =
      renamedNames ρ (attributeValues s path attributes) := by
  unfold attributeValues renamedAttributes renamedNames
  rw [List.map_map, List.map_map, hs]
  refine List.map_congr_left fun a _ => ?_
  obtain ⟨n, a⟩ := a
  cases a <;> rfl

theorem homely_attributeValues {path : String} {attributes : List (String × Attribute)}
    (h : HomelyAttributes K attributes) : HomelyNames K (attributeValues s path attributes) := by
  intro e he
  obtain ⟨⟨n, a⟩, ha, rfl⟩ := List.mem_map.mp he
  have hhomely := h _ ha
  cases a with
  | value v => exact hhomely
  | property g b => exact Value.homely_other
  | method b => exact Value.homely_function

theorem within_rename (hs : s'.module = s.module) (body : Body) :
    (p.rename ρ).within s' (body.rename ρ) = (p.within s body).rename ρ :=
  congrArg (fun names => { p with locals := names }) (attributeValues_renamed hs _ _)

theorem put_rename (body : Body) (name : String) (a : Attribute) :
    (body.rename ρ).put name (a.rename ρ) = (body.put name a).rename ρ := by
  unfold Body.put Body.rename
  rw [putPair_renamedAttributes]

theorem homely_put {body : Body} (hb : body.Homely K) {name : String} {a : Attribute}
    (ha : a.Homely K) : (body.put name a).Homely K :=
  ⟨hb.annotations, forall_putPair hb.attributes ha⟩

/-! ### Definitions -/

/-- The second step gives the renamed body. -/
abbrev CarriesBody (T : Track) (w w' : World) (m m' : Run Body) : Prop :=
  T.Carries (Body.rename T.serials) (Body.Homely T.homes) w w' m m'

section Definitions

variable (hs : T.Fits s s')

include hs

theorem same_module : s'.module = s.module := hs.module'.trans hs.module.symm

theorem carries_runEnum (hp : HomelyNames T.homes p.locals) {d : EnumDefinition} :
    T.CarriesValue w w' (runEnum s p d) (runEnum s' (p.rename T.serials) d) := by
  rw [runEnum_eq, runEnum_eq]
  refine (carries_valueOfText hs hp).bind fun v w w' hv => ?_
  have hbases : writtenBases (v.rename T.serials) =
      (writtenBases v).map (Value.rename T.serials) := by
    cases v with
    | tuple items => rw [Value.rename_tuple, writtenBases, writtenBases]
    | _ => rfl
  have hhomely : AllHomely T.homes (writtenBases v) := by
    unfold writtenBases
    split
    · exact Value.homely_tuple.mp hv
    · exact Value.allHomely_singleton.mpr hv
  rw [hbases]
  exact carries_adding fun hw =>
    sends_enumerated hw.renames (same_module hs) (hs.module ▸ T.home) hhomely

theorem carries_runProperty (hp : HomelyNames T.homes p.locals) {kind : PropertyKind}
    {returns : Option String} :
    T.Carries (Attribute.rename T.serials) (Attribute.Homely T.homes) w w'
      (runProperty s p kind returns) (runProperty s' (p.rename T.serials) kind returns) := by
  have hm : T.homes s.module := hs.module ▸ T.home
  have hproperty : ∀ {o : Option Value} {w w' : World} {b : Bool},
      (∀ v, o = some v → v.Homely T.homes) →
      T.Carries (Attribute.rename T.serials) (Attribute.Homely T.homes) w w'
        (return .property (some ⟨o, s.module⟩) b)
        (return .property (some ⟨o.map (Value.rename T.serials), s.module⟩) b) :=
    fun ho => carries_pure (a := Attribute.property (some ⟨_, s.module⟩) _) ⟨hm, ho⟩ rfl
  unfold runProperty
  rw [same_module hs]
  cases returns with
  | none => exact hproperty (o := none) nofun
  | some text =>
    dsimp only
    simp only [pure_bind]
    exact (carries_annotationAt hs hp).bind fun v _ _ hv =>
      hproperty (o := some v) fun _ h => Option.some_inj.mp h ▸ hv

mutual

/-- A class is made in both worlds. -/
theorem carries_runClass {w w' : World} {p : Spot} (hp : HomelyNames T.homes p.locals) :
    (d : ClassDefinition) → T.CarriesValue w w' (runClass s p d)
      (runClass s' (p.rename T.serials) d)
  | .mk written bases decorators header items => by
    rw [runClass, runClass]
    have hoptions : T.Carries id (fun _ => True) w w' (decorators.mapM (dataOptions? s p))
        (decorators.mapM (dataOptions? s' (p.rename T.serials))) := by
      have hmap : T.Carries (List.map id) (fun os => ∀ o ∈ os, True) w w'
          (decorators.mapM (dataOptions? s p))
          (decorators.mapM (dataOptions? s' (p.rename T.serials))) :=
        carries_mapM fun text _ _ => carries_dataOptions hs hp
      rw [List.map_id_fun] at hmap
      exact hmap.mono fun _ _ => trivial
    refine hoptions.bind fun options _ _ _ => ?_
    refine (carries_texts hs hp bases).bind fun values _ _ hvalues => ?_
    refine (carries_headerWords hs hp).bind fun words w₁ w₁' _ => ?_
    refine carries_of_follows fun hw => carries_look ?_
    rw [headerOf_congr (same_module hs)]
    refine carries_lifted_bind (sends_headerOf hw.renames (hs.module ▸ T.home) rfl hvalues)
      fun h hh => ?_
    have hempty : Body.Homely T.homes ⟨[], []⟩ :=
      ⟨fun _ h => (List.not_mem_nil h).elim, fun _ h => (List.not_mem_nil h).elim⟩
    refine (carries_runBody (p := ⟨[], _, _⟩) hempty items).bind fun body _ _ hbody => ?_
    rw [finishClass_eq, finishClass_eq]
    exact carries_adding fun hw => sends_finished hw.renames hh hbody options

theorem carries_runBody {w w' : World} {p : Spot} {body : Body} (hb : body.Homely T.homes) :
    (items : List BodyItem) → T.CarriesBody w w' (runBody s p body items)
      (runBody s' (p.rename T.serials) (body.rename T.serials) items)
  | [] => by
    rw [runBody, runBody]
    exact carries_pure hb rfl
  | item :: rest => by
    rw [runBody, runBody]
    refine Carries.bind (f := Body.rename T.serials) (P := Body.Homely T.homes) ?_
      fun more _ _ hmore => carries_runBody hmore rest
    change T.CarriesBody w w' (runItem s (p.within s body) body item)
      (runItem s' ((p.rename T.serials).within s' (body.rename T.serials)) (body.rename T.serials)
        item)
    rw [within_rename (same_module hs)]
    exact carries_runItem (homely_attributeValues hb.attributes) hb item

theorem carries_runItem {w w' : World} {p : Spot} {body : Body}
    (hp : HomelyNames T.homes p.locals) (hb : body.Homely T.homes) :
    (item : BodyItem) → T.CarriesBody w w' (runItem s p body item)
      (runItem s' (p.rename T.serials) (body.rename T.serials) item)
  | .field written annotation none => by
    rw [runItem, runItem, pure_bind, pure_bind]
    refine (carries_annotationAt hs hp).bind fun v _ _ hv => ?_
    exact carries_pure (a := (⟨putPair _ v body.annotations, body.attributes⟩ : Body))
      ⟨forall_putPair hb.annotations hv, hb.attributes⟩
      (congrArg (fun names => (⟨names, _⟩ : Body)) (putPair_renamedNames ..))
  | .field written annotation (some text) => by
    rw [runItem, runItem]
    dsimp only
    simp only [pure_bind]
    refine (carries_assignedAttribute hs hp).bind fun a w₁ w₁' ha => ?_
    have hput : (body.put (p.known written) a).Homely T.homes := homely_put hb ha
    have hwithin := within_rename (ρ := T.serials) (p := p) (same_module hs)
      (body.put (p.known written) a)
    rw [← put_rename] at hwithin
    have hannotation : T.CarriesValue w₁ w₁'
        (annotationAt s (p.within s (body.put (p.known written) a)) annotation)
        (annotationAt s' ((p.within s (body.put (p.known written) a)).rename T.serials)
          annotation) :=
      carries_annotationAt hs (homely_attributeValues hput.attributes)
    rw [← hwithin] at hannotation
    refine Carries.bind hannotation fun v _ _ hv => ?_
    exact carries_pure (a := (⟨putPair _ v body.annotations, putPair _ a body.attributes⟩ : Body))
      ⟨forall_putPair hb.annotations hv, hput.attributes⟩
      (congrArg₂ Body.mk (putPair_renamedNames ..) (putPair_renamedAttributes ..))
  | .assignment written text => by
    rw [runItem, runItem]
    refine (carries_assignedAttribute hs hp).bind fun a _ _ ha => ?_
    exact carries_pure (homely_put hb ha) (put_rename body _ a)
  | .property kind written returns => by
    rw [runItem, runItem]
    refine (carries_runProperty hs hp).bind fun a _ _ ha => ?_
    exact carries_pure (homely_put hb ha) (put_rename body _ a)
  | .writeOnly written => by
    rw [runItem, runItem]
    exact carries_pure (homely_put hb trivial) (put_rename body _ (.property none false))
  | .method written isAbstract => by
    rw [runItem, runItem]
    exact carries_pure (homely_put hb trivial) (put_rename body _ (.method isAbstract))
  | .cls d => by
    rw [runItem, runItem]
    refine (carries_runClass hp d).bind fun v _ _ hv => ?_
    exact carries_pure (homely_put hb hv) (put_rename body _ (.value v))
  | .enum d => by
    rw [runItem, runItem]
    refine (carries_runEnum hs hp).bind fun v _ _ hv => ?_
    exact carries_pure (homely_put hb hv) (put_rename body _ (.value v))

end

omit hs in
theorem homely_outside : HomelyNames K Spot.outside.locals := fun _ h => (List.not_mem_nil h).elim

theorem carries_makeVariable (d : VariableDefinition) :
    T.CarriesValue w w' (makeVariable s d) (makeVariable s' d) := by
  unfold makeVariable
  refine (carries_texts hs homely_outside d.alternatives).bind fun alternatives w₁ w₁' ha => ?_
  cases d.bound with
  | none =>
    dsimp only
    rw [pure_bind, pure_bind]
    have hbound : ∀ v, (none : Option Value) = some v → v.Homely T.homes := nofun
    exact carries_newTypeVar hs ha hbound
  | some text =>
    dsimp only
    simp only [pure_bind]
    refine (carries_valueOfText hs homely_outside).bind fun v _ _ hv => ?_
    have hbound : ∀ x, some v = some x → x.Homely T.homes := fun _ h => Option.some_inj.mp h ▸ hv
    exact carries_newTypeVar hs ha hbound

/-- A value that is made and then bound to a name. -/
theorem carries_define {m m' : Run Value} (h : T.CarriesValue w w' m m') (name : String) :
    T.Carries id (fun _ => True) w w' (m >>= Definition.bind s name)
      (m' >>= Definition.bind s' name) :=
  Carries.bind h fun _ _ _ hv => carries_bind hs hv

omit hs in
/-- What is imported in one world is what is imported in the other. -/
def CarriesImports (T : Track) (s s' : Setting) (definitions : List ModuleItem) : Prop :=
  ∀ module names, ModuleItem.imports module names ∈ definitions → ∀ w w',
    T.CarriesValues w w' (s.importFrom module names) (s'.importFrom module names)

theorem carries_runDefinition {item : ModuleItem} (hi : T.CarriesImports s s' [item]) :
    T.Carries id (fun _ => True) w w' (runDefinition s item) (runDefinition s' item) := by
  match item with
  | .cls d => exact carries_define hs (carries_runClass hs homely_outside d) _
  | .enum d => exact carries_define hs (carries_runEnum hs homely_outside) _
  | .typeVar d =>
    change T.Carries id (fun _ => True) w w' (runVariable s d) (runVariable s' d)
    rw [runVariable_eq, runVariable_eq]
    exact carries_define hs (carries_makeVariable hs d) _
  | .newType name supertype =>
    rw [runNewType_eq, runNewType_eq]
    refine carries_define hs ?_ _
    exact (carries_valueOfText hs homely_outside).bind fun v _ _ hv => carries_newNamedType hs hv
  | .alias name text => exact carries_define hs (carries_assignedValue hs homely_outside) _
  | .imports module names =>
    refine (hi module names (List.mem_singleton_self _) w w').bind fun values w₁ w₁' hvalues => ?_
    rw [List.zip_map_right]
    refine carries_forM fun e he _ _ => ?_
    exact carries_bind hs (hvalues e.2 (List.of_mem_zip he).2)
  | .raising _ => exact carries_failing

omit hs in
theorem common_imported (module name : String) : (imported module name).2.Common := by
  change ((moduleAttribute? module name).getD .none).Common
  cases h : moduleAttribute? module name with
  | none => exact common_none
  | some v => exact common_moduleAttribute h

omit hs in
theorem common_preamble : ∀ e ∈ preamble, e.2.Common := by
  have hmodules : ∀ {names : List String}, (∀ n ∈ names, n ∈ libraryModules) →
      ∀ e ∈ names.map fun n => (n, Value.module n), e.2.Common := by
    intro names hnames e he
    obtain ⟨n, hn, rfl⟩ := List.mem_map.mp he
    exact ⟨fun _ => rfl, fun _ => Value.homely_module.mpr (hnames n hn)⟩
  have himported : ∀ (module : String) (names : List String),
      ∀ e ∈ names.map (imported module), e.2.Common := by
    intro module names e he
    obtain ⟨n, -, rfl⟩ := List.mem_map.mp he
    exact common_imported module n
  have happend : ∀ {xs ys : List (String × Value)}, (∀ e ∈ xs, e.2.Common) →
      (∀ e ∈ ys, e.2.Common) → ∀ e ∈ xs ++ ys, e.2.Common :=
    fun hx hy => List.forall_mem_append.mpr ⟨hx, hy⟩
  refine happend (happend (happend (happend (happend (happend (happend (hmodules ?_) ?_)
    (hmodules ?_)) (himported _ _)) (himported _ _)) ?_) (himported _ _)) ?_
  · decide
  · exact List.forall_mem_singleton.mpr ⟨fun _ => rfl, fun _ => Value.homely_module.mpr (by decide)⟩
  · decide
  · exact List.forall_mem_singleton.mpr (common_imported _ _)
  · refine List.forall_mem_cons.mpr ⟨common_cls, ?_⟩
    exact List.forall_mem_singleton.mpr common_function

theorem carries_runDefinitions {definitions : List ModuleItem}
    (hi : T.CarriesImports s s' definitions) :
    T.Carries id (fun _ => True) w w' (runDefinitions s definitions)
      (runDefinitions s' definitions) := by
  unfold runDefinitions
  have hsame : ∀ {α : Type} {xs : List α} {k k' : α → Run Unit},
      (∀ x ∈ xs, ∀ w w', T.Carries id (fun _ => True) w w' (k x) (k' x)) →
      ∀ w w', T.Carries id (fun _ => True) w w' (xs.forM k) (xs.forM k') := by
    intro α xs k k' h w w'
    have hforM : T.Carries id (fun _ => True) w w' (xs.forM k) ((xs.map id).forM k') :=
      carries_forM h
    rwa [List.map_id] at hforM
  refine (hsame (fun e he w w' => ?_) w w').bind fun _ w₁ w₁' _ =>
    hsame (fun item hitem w w' => carries_runDefinition hs fun module names h => ?_) w₁ w₁'
  · have hcommon := common_preamble e he
    have hbind : T.Carries id (fun _ => True) w w' (Definition.bind s e.1 e.2)
        (Definition.bind s' e.1 (e.2.rename T.serials)) := carries_bind hs (hcommon.homely T.homes)
    rwa [hcommon.rename] at hbind
  · cases List.mem_singleton.mp h
    exact hi module names hitem

end Definitions

end Track

end TypeProjection.Definition
