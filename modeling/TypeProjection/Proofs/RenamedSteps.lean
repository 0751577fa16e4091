import TypeProjection.Proofs.MadeClasses
import TypeProjection.Proofs.RenamedRuns

/-!
# Values of texts under other serials

The steps of a run that give values. A text has the renamed value in the second world, as its names
have. Where the module had names before, this is so for a text that does not fail for want of one of
them.
-/

namespace TypeProjection

open Annotation

namespace Definition

open World
open Value (AllHomely allHomely_cons allHomely_nil allHomely_append)

/-- The spot with the values of its names renamed. -/
def Spot.rename (ρ : Renaming) (p : Spot) : Spot := { p with locals := renamedNames ρ p.locals }

variable {T : Track} {w w' : World} {s s' : Setting} {p : Spot} {text : String} {v : Value}

namespace Track

/-- The settings of the module in both worlds. -/
structure Fits (T : Track) (s s' : Setting) : Prop where
  module : s.module = T.module
  module' : s'.module = T.module
  postponed : s'.postponed = s.postponed

/-- The second step gives the renamed value. -/
abbrev CarriesValue (T : Track) (w w' : World) (m m' : Run Value) : Prop :=
  T.Carries (Value.rename T.serials) (Value.Homely T.homes) w w' m m'

/-- The second step gives the renamed values. -/
abbrev CarriesValues (T : Track) (w w' : World) (m m' : Run (List Value)) : Prop :=
  T.Carries (List.map (Value.rename T.serials)) (AllHomely T.homes) w w' m m'

/-- The second step gives the values renamed under their names. -/
abbrev CarriesNames (T : Track) (w w' : World) (m m' : Run (List (String × Value))) : Prop :=
  T.Carries (renamedNames T.serials) (HomelyNames T.homes) w w' m m'

/-- A name means the renamed value where it means something, or where the module did not have it
before. -/
theorem Overlays.find? {names names' : List (String × Value)} (h : T.Overlays names names')
    (locals : List (String × Value)) (n : String)
    (hn : T.earlier.lookup n = none ∨ (Scope.find? [locals, names] n).isSome = true) :
    Scope.find? [renamedNames T.serials locals, names'] n =
      (Scope.find? [locals, names] n).map (Value.rename T.serials) := by
  have hbuiltin : (builtinName? n).map (Value.rename T.serials) = builtinName? n := by
    cases hv : builtinName? n with
    | none => rfl
    | some v => exact congrArg some ((common_builtinName hv).rename _)
  simp only [Scope.find?, List.findSome?, lookup_renamedNames, h.lookup] at hn ⊢
  cases hl : locals.lookup n with
  | some v => rfl
  | none =>
    cases hv : names.lookup n with
    | some v => rfl
    | none =>
      -- a name that only the module had before hides no name that every module has
      cases he : T.earlier.lookup n with
      | none => exact hbuiltin.symm
      | some v =>
        rw [hl, hv, he] at hn
        have hsome := hn.resolve_left nofun
        have hnone : builtinName? n = none := T.visible _ (mem_of_lookup he)
        rw [hnone] at hsome
        cases hsome

theorem sendsName_overlays {locals names names' : List (String × Value)} {owner : Option String}
    (h : T.Overlays names names') (hl : HomelyNames T.homes locals) {n : String}
    (hn : Spared T.Misses (Scope.lookup ⟨[locals, names], owner⟩ n)) :
    SendsName T.serials T.homes ⟨[locals, names], owner⟩
      ⟨[renamedNames T.serials locals, names'], owner⟩ n := by
  have hknown : Scope.known ⟨[renamedNames T.serials locals, names'], owner⟩ n =
      Scope.known ⟨[locals, names], owner⟩ n := rfl
  unfold SendsName Scope.lookup
  rw [hknown]
  have hfind := h.find? locals (Scope.known ⟨[locals, names], owner⟩ n) <| by
    unfold Scope.lookup at hn
    split at hn
    · next hv => exact .inr (by rw [hv]; rfl)
    · cases he : T.earlier.lookup (Scope.known ⟨[locals, names], owner⟩ n) with
      | none => exact .inl rfl
      | some v => exact (hn _ rfl ⟨_, mem_of_lookup he, rfl⟩).elim
  rw [hfind]
  cases hv : Scope.find? [locals, names] (Scope.known ⟨[locals, names], owner⟩ n) with
  | none => exact sends_error
  | some v =>
    refine sends_ok (homely_find? (fun spaces hs => ?_) hv)
    rcases List.mem_cons.mp hs with rfl | hs
    · exact hl
    · cases List.mem_singleton.mp hs
      exact h.homely

section Values

theorem carries_sourceExpression :
    T.Carries id (fun _ => True) w w' (sourceExpression text) (sourceExpression text) := by
  unfold sourceExpression
  split
  · exact carries_pure trivial rfl
  · exact carries_failing

variable (hs : T.Fits s s') (hp : HomelyNames T.homes p.locals)

include hs hp

theorem carries_valueOf {e : Expr} :
    T.CarriesValue w w' (valueOf s p e) (valueOf s' (p.rename T.serials) e) := by
  refine carries_of_follows fun hw => carries_look (carries_look (carries_lifted fun hok => ?_))
  rw [hs.module] at hok ⊢
  rw [hs.module']
  have hnames : ∀ n ∈ e.names,
      Spared T.Misses (Scope.lookup ⟨[p.locals, w.namesOf T.module], p.owner⟩ n) →
        SendsName T.serials T.homes ⟨[p.locals, w.namesOf T.module], p.owner⟩
          ⟨[renamedNames T.serials p.locals, w'.namesOf T.module], p.owner⟩ n :=
    fun n _ hn => sendsName_overlays hw.names hp hn
  exact hw.renames.sends_spared (by rfl) e hnames hok

theorem carries_valueOfText :
    T.CarriesValue w w' (valueOfText s p text) (valueOfText s' (p.rename T.serials) text) :=
  carries_sourceExpression.bind fun _ _ _ _ => carries_valueOf hs hp

theorem carries_annotationAt :
    T.CarriesValue w w' (annotationAt s p text) (annotationAt s' (p.rename T.serials) text) := by
  refine carries_sourceExpression.bind fun e _ _ _ => ?_
  rw [hs.postponed]
  split
  · exact carries_pure Value.homely_str rfl
  · exact carries_valueOf hs hp

theorem carries_values (es : List Expr) : T.CarriesValues w w' (es.mapM (valueOf s p))
    (es.mapM (valueOf s' (p.rename T.serials))) :=
  carries_mapM fun _ _ _ => carries_valueOf hs hp

theorem carries_texts (texts : List String) : T.CarriesValues w w' (texts.mapM (valueOfText s p))
    (texts.mapM (valueOfText s' (p.rename T.serials))) :=
  carries_mapM fun _ _ _ => carries_valueOfText hs hp

theorem carries_words (named : List (String × Expr)) :
    T.CarriesNames w w' (named.mapM fun n => do return (n.1, ← valueOf s p n.2))
      (named.mapM fun n => do return (n.1, ← valueOf s' (p.rename T.serials) n.2)) :=
  carries_mapM fun _ _ _ => (carries_valueOf hs hp).bind fun _ _ _ hv =>
    carries_pure (f := fun e : String × Value => (e.1, e.2.rename T.serials)) hv rfl

end Values

/-! ### Calls that make something -/

section Made

/-- The bound of a type variable, checked to be a type if there is one. -/
def checkedBound (w : World) : Option Value → Except Fault (Option Value)
  | none | some .none => .ok none
  | some v => do return some (← w.checkType { message := "Bound must be a type." } v)

/-- The type variable that a call makes, given its bound. -/
def checkedVariable (w : World) (module name : String) (variance : Variance)
    (alternatives : List Value) (bound : Option Value) (b : Bool) : Except Fault TypeVariable :=
  if !alternatives.isEmpty && bound.isSome then
    .error (.wrongType "Constraints cannot be combined with bound=...")
  else if alternatives.length == 1 then
    .error (.wrongType "A single constraint is not allowed")
  else do
    let types ← alternatives.mapM
      (w.checkType { message := "TypeVar(name, constraint, ...): constraints must be types." })
    return ⟨name, module, variance, bound, types, b⟩

variable {name : String} {variance : Variance} {alternatives : List Value} {bound : Option Value}
  {b : Bool}

/-- To make a type variable is to add one that has been checked. -/
theorem newTypeVar_eq : newTypeVar s name variance alternatives bound b = (do
    let w ← get
    let o ← lifted (checkedBound w bound)
    let v ← lifted (checkedVariable w s.module name variance alternatives o b)
    set { w with typeVars := w.typeVars.push v }
    return .typeVar w.typeVars.size) := by
  unfold newTypeVar
  congr 1
  funext w
  extract_lets rest
  have hrest : ∀ o, rest o = (do
      let v ← lifted (checkedVariable w s.module name variance alternatives o b)
      set { w with typeVars := w.typeVars.push v }
      return .typeVar w.typeVars.size) := by
    intro o
    unfold rest checkedVariable
    split
    · rfl
    split
    · rfl
    · rw [lifted_bind, bind_assoc]
      rfl
  split
  · rw [pure_bind, hrest]
    rfl
  · rw [pure_bind, hrest]
    rfl
  · next v hv =>
    have hbound : checkedBound w (some v) =
        (do return some (← w.checkType { message := "Bound must be a type." } v)) := by
      unfold checkedBound
      split
      · next h => cases h
      · next h => exact (hv (Option.some_inj.mp h)).elim
      · next h => rw [Option.some_inj.mp h]
    rw [hbound, lifted_bind, bind_assoc]
    congr 1
    funext t
    rw [pure_bind, hrest]
    rfl

theorem sends_checkedBound {ρ : Renaming} {K : String → Prop} (h : w.Renames ρ K w')
    (hb : ∀ v, bound = some v → v.Homely K) :
    Sends (Option.map (Value.rename ρ)) (fun o => ∀ v, o = some v → v.Homely K)
      (checkedBound w bound) (checkedBound w' (bound.map (Value.rename ρ))) := by
  rcases bound with _ | v
  · exact sends_ok nofun
  have hsome : v ≠ .none → Sends (Option.map (Value.rename ρ))
      (fun o => ∀ v, o = some v → v.Homely K)
      (do return some (← w.checkType { message := "Bound must be a type." } v))
      (do return some (← w'.checkType { message := "Bound must be a type." } (v.rename ρ))) :=
    fun _ => (h.sends_checkType h.blank (hb v rfl)).bind fun t ht =>
      sends_ok (a := some t) fun _ h => Option.some_inj.mp h ▸ ht
  cases v with
  | none => exact sends_ok nofun
  | _ => exact hsome nofun

theorem sends_checkedVariable {ρ : Renaming} {K : String → Prop} (h : w.Renames ρ K w')
    {module : String} (hm : K module) (ha : AllHomely K alternatives)
    (hb : ∀ v, bound = some v → v.Homely K) :
    Sends (TypeVariable.rename ρ) (TypeVariable.Homely K)
      (checkedVariable w module name variance alternatives bound b)
      (checkedVariable w' module name variance (alternatives.map (Value.rename ρ))
        (bound.map (Value.rename ρ)) b) := by
  unfold checkedVariable
  simp only [List.isEmpty_map, Option.isSome_map, List.length_map]
  refine sends_ite (fun _ => sends_error) fun _ => sends_ite (fun _ => sends_error) fun _ => ?_
  refine (sends_mapM fun v hv => h.sends_checkType h.blank (ha v hv)).bind fun types htypes => ?_
  have hhomely : TypeVariable.Homely K ⟨name, module, variance, bound, types, b⟩ := by
    refine ⟨hm, fun t ht => ?_⟩
    rcases List.mem_append.mp ht with ht | ht
    · exact hb t (Option.mem_toList.mp ht)
    · exact htypes t ht
  exact sends_pure (f := TypeVariable.rename ρ) hhomely

theorem spares_pushTypeVar (hw : T.Follows w w') (x : TypeVariable) :
    T.Spares w' { w' with typeVars := w'.typeVars.push x } where
  typeVars i hi := by
    have hsize : T.serials.typeVar w.typeVars.size = w'.typeVars.size := hw.renames.nextTypeVar 0
    refine Array.getElem?_push.trans (if_neg ?_)
    exact fun h => hi w.typeVars.size (hsize.trans h.symm)
  current := rfl
  size := rfl
  others _ _ := rfl
  own _ x hx := ⟨x.names, hx⟩

theorem spares_modifyTypeVar (w : World) (i : Nat) (f : TypeVariable → TypeVariable) :
    T.Spares w { w with typeVars := w.typeVars.modify (T.serials.typeVar i) f } where
  typeVars _ hj := (Array.getElem?_modify ..).trans (if_neg (hj i))
  current := rfl
  size := rfl
  others _ _ := rfl
  own _ x hx := ⟨x.names, hx⟩

section Steps

variable (hs : T.Fits s s')

include hs

theorem carries_newTypeVar (ha : AllHomely T.homes alternatives)
    (hb : ∀ v, bound = some v → v.Homely T.homes) :
    T.CarriesValue w w' (newTypeVar s name variance alternatives bound b)
      (newTypeVar s' name variance (alternatives.map (Value.rename T.serials))
        (bound.map (Value.rename T.serials)) b) := by
  rw [newTypeVar_eq, newTypeVar_eq, hs.module, hs.module']
  refine carries_of_follows fun hw => carries_look ?_
  refine carries_lifted_bind (sends_checkedBound hw.renames hb) fun o ho => ?_
  refine carries_lifted_bind (sends_checkedVariable hw.renames T.home ha ho) fun v hv => ?_
  have hsize : T.serials.typeVar w.typeVars.size = w'.typeVars.size := hw.renames.nextTypeVar 0
  refine carries_set Value.homely_typeVar (by rw [Value.rename_typeVar, hsize]) fun hw => ?_
  exact ⟨⟨renames_pushTypeVar hw.renames hv, hw.names, hw.left, hw.right⟩,
    spares_pushTypeVar hw _⟩

theorem carries_newParamSpec :
    T.CarriesValue w w' (newParamSpec s name) (newParamSpec s' name) := by
  refine carries_of_follows fun hw => carries_look ?_
  have hsize : T.serials.paramSpec w.paramSpecs.size = w'.paramSpecs.size :=
    hw.renames.nextParamSpec 0
  rw [hs.module, hs.module']
  refine carries_set Value.homely_paramSpec (by rw [Value.rename_paramSpec, hsize]) fun hw => ?_
  exact ⟨⟨renames_pushParamSpec hw.renames _, hw.names, hw.left, hw.right⟩,
    .of_same rfl rfl rfl⟩

theorem carries_newNamedType (hv : v.Homely T.homes) :
    T.CarriesValue w w' (newNamedType s name v)
      (newNamedType s' name (v.rename T.serials)) := by
  refine carries_of_follows fun hw => carries_look ?_
  have hsize : T.serials.newType w.newTypes.size = w'.newTypes.size := hw.renames.nextNewType 0
  rw [hs.module, hs.module']
  refine carries_set Value.homely_newType (by rw [Value.rename_newType, hsize]) fun hw => ?_
  exact ⟨⟨renames_pushNewType hw.renames (n := ⟨name, T.module, v⟩) hv, hw.names, hw.left,
    hw.right⟩, .of_same rfl rfl rfl⟩

omit hs in
theorem carries_markConstructible (i : Nat) : T.Carries id (fun _ => True) w w'
    (markConstructible i) (markConstructible (T.serials.typeVar i)) := by
  refine carries_modify fun hw => ⟨⟨renames_modifyTypeVar hw.renames i (fun _ => rfl) ?_,
    hw.names, hw.left, hw.right⟩, spares_modifyTypeVar w' i _⟩
  exact fun v hv => ⟨hv.module, hv.bounds⟩

theorem carries_bind (hv : v.Homely T.homes) : T.Carries id (fun _ => True) w w'
    (Definition.bind s name v) (Definition.bind s' name (v.rename T.serials)) := by
  unfold Definition.bind
  rw [hs.module, hs.module']
  exact carries_modify fun hw => ⟨hw.bind hv name, spares_withNames w' _⟩

omit hs in
theorem isSet_renamed {ρ : Renaming} (words : List (String × Value)) (n : String) :
    isSet (renamedNames ρ words) n = isSet words n := by
  unfold isSet
  rw [lookup_renamedNames]
  cases words.lookup n with
  | none => rfl
  | some v => cases v <;> rfl

omit hs in
theorem varianceIn_renamed {ρ : Renaming} (words : List (String × Value)) :
    varianceIn (renamedNames ρ words) = varianceIn words := by
  unfold varianceIn
  rw [isSet_renamed, isSet_renamed]

omit hs in
theorem rename_eq_function {ρ : Renaming} {m n : String} :
    v.rename ρ = .function m n ↔ v = .function m n := by
  cases v <;> simp

omit hs in
theorem rename_eq_library {ρ : Renaming} {m n : String} :
    v.rename ρ = .cls (.library m n) ↔ v = .cls (.library m n) := by
  cases v <;> simp

omit hs in
theorem rename_eq_typeVar {ρ : Renaming} {i : Nat} (h : v.rename ρ = .typeVar i) :
    ∃ j, v = .typeVar j := by
  cases v <;> simp at h
  exact ⟨_, rfl⟩

theorem carries_called {callee : Value} {arguments : List Value} {words : List (String × Value)}
    (ha : AllHomely T.homes arguments) (hwords : HomelyNames T.homes words) :
    T.CarriesValue w w' (called s callee arguments words)
      (called s' (callee.rename T.serials) (arguments.map (Value.rename T.serials))
        (renamedNames T.serials words)) := by
  unfold called
  split
  · exact carries_newParamSpec hs
  · next name alternatives =>
    have hb : ∀ v, words.lookup "bound" = some v → v.Homely T.homes :=
      fun v hv => World.HomelyNames.lookup hwords hv
    have hcarries : T.CarriesValue w w'
        (newTypeVar s name (varianceIn words) alternatives (words.lookup "bound") false)
        (newTypeVar s' name (varianceIn (renamedNames T.serials words))
          (alternatives.map (Value.rename T.serials))
          ((renamedNames T.serials words).lookup "bound") false) := by
      rw [varianceIn_renamed, lookup_renamedNames]
      exact carries_newTypeVar hs (allHomely_cons.mp ha).2 hb
    exact hcarries
  · next name supertype =>
    exact carries_newNamedType hs (allHomely_cons.mp (allHomely_cons.mp ha).2).1
  · exact (carries_markConstructible _).bind fun _ _ _ _ =>
      carries_pure Value.homely_typeVar rfl
  · next hspec hvar htype hmark =>
    have hwords' : AllHomely T.homes (words.map (·.2)) := by
      intro v hv
      obtain ⟨e, he, rfl⟩ := List.mem_map.mp hv
      exact hwords e he
    have hmap : (renamedNames T.serials words).map (·.2) =
        (words.map (·.2)).map (Value.rename T.serials) := by
      rw [renamedNames, List.map_map, List.map_map]
      rfl
    -- what is no such call under the old serials is none under the new ones
    have hcall : T.CarriesValue w w' (do lifted ((← get).call callee (arguments ++ words.map (·.2))))
        (do lifted ((← get).call (callee.rename T.serials)
          (arguments.map (Value.rename T.serials) ++
            (renamedNames T.serials words).map (·.2)))) := by
      refine carries_of_follows fun hw => carries_look (carries_lifted fun _ => ?_)
      rw [hmap, ← List.map_append]
      exact hw.renames.sends_call (allHomely_append.mpr ⟨ha, hwords'⟩)
    split
    · next hc hx =>
      obtain ⟨v, vs, rfl, hv, -⟩ := List.map_eq_cons_iff.mp hx
      cases Value.rename_eq_str.mp hv
      exact (hspec _ _ (rename_eq_library.mp hc) rfl).elim
    · next hc hx =>
      obtain ⟨v, vs, rfl, hv, -⟩ := List.map_eq_cons_iff.mp hx
      cases Value.rename_eq_str.mp hv
      exact (hvar _ _ (rename_eq_library.mp hc) rfl).elim
    · next hc hx =>
      obtain ⟨v, vs, rfl, hv, hvs⟩ := List.map_eq_cons_iff.mp hx
      obtain ⟨u, us, rfl, -, hus⟩ := List.map_eq_cons_iff.mp hvs
      cases List.map_eq_nil_iff.mp hus
      cases Value.rename_eq_str.mp hv
      exact (htype _ _ (rename_eq_library.mp hc) rfl).elim
    · next hc hx =>
      obtain ⟨v, vs, rfl, hv, hvs⟩ := List.map_eq_cons_iff.mp hx
      cases List.map_eq_nil_iff.mp hvs
      obtain ⟨j, rfl⟩ := rename_eq_typeVar hv
      exact (hmark _ (rename_eq_function.mp hc) rfl).elim
    · exact hcall

end Steps

end Made

/-! ### Texts that may make something -/

section Texts

variable (hs : T.Fits s s') (hp : HomelyNames T.homes p.locals)

include hs hp

theorem carries_assignedValue :
    T.CarriesValue w w' (assignedValue s p text) (assignedValue s' (p.rename T.serials) text) := by
  refine carries_sourceExpression.bind fun e _ _ _ => ?_
  cases e with
  | call callee arguments named =>
    refine (carries_valueOf hs hp).bind fun f _ _ _ => ?_
    refine (carries_values hs hp _).bind fun vs _ _ hvs => ?_
    exact (carries_words hs hp _).bind fun words _ _ hwords => carries_called hs hvs hwords
  | _ => exact carries_valueOf hs hp

/-- The property that a call makes depends on whether it has a getter. -/
theorem carries_madeProperty {arguments : List Expr} {named : List (String × Expr)}
    {make : List Value → List (String × Value) → Run Attribute}
    (hmake : ∀ vs words, make vs words =
      match (match vs.head? with
        | some v => some v
        | none => words.lookup "fget") with
      | none | some .none => return .property none false
      | some _ => return .property (some ⟨none, "builtins"⟩) false)
    (hK : T.homes "builtins") :
    T.Carries (Attribute.rename T.serials) (Attribute.Homely T.homes) w w'
      (do
        let values ← arguments.mapM (valueOf s p)
        let words ← named.mapM fun n => do return (n.1, ← valueOf s p n.2)
        make values words)
      (do
        let values ← arguments.mapM (valueOf s' (p.rename T.serials))
        let words ← named.mapM fun n => do return (n.1, ← valueOf s' (p.rename T.serials) n.2)
        make values words) := by
  refine (carries_values hs hp _).bind fun vs _ _ _ => ?_
  refine (carries_words hs hp _).bind fun words _ _ _ => ?_
  have hgetter : (match (vs.map (Value.rename T.serials)).head? with
      | some v => some v
      | none => (renamedNames T.serials words).lookup "fget") =
      (match vs.head? with
        | some v => some v
        | none => words.lookup "fget").map (Value.rename T.serials) := by
    rw [List.head?_map, lookup_renamedNames]
    cases vs.head? <;> rfl
  have hbare : ∀ w w', T.Carries (Attribute.rename T.serials) (Attribute.Homely T.homes) w w'
      (return .property none false) (return .property none false) := fun _ _ =>
    carries_pure trivial rfl
  have hplain : ∀ w w', T.Carries (Attribute.rename T.serials) (Attribute.Homely T.homes) w w'
      (return .property (some ⟨none, "builtins"⟩) false)
      (return .property (some ⟨none, "builtins"⟩) false) := fun _ _ =>
    carries_pure (a := Attribute.property (some ⟨none, "builtins"⟩) false) ⟨hK, nofun⟩ rfl
  rw [hmake, hmake, hgetter]
  cases (match vs.head? with
    | some v => some v
    | none => words.lookup "fget") with
  | none => exact hbare _ _
  | some v =>
    cases v with
    | none => exact hbare _ _
    | _ => exact hplain _ _

theorem carries_assignedAttribute :
    T.Carries (Attribute.rename T.serials) (Attribute.Homely T.homes) w w'
      (assignedAttribute s p text) (assignedAttribute s' (p.rename T.serials) text) := by
  have hvalue : ∀ w w', T.Carries (Attribute.rename T.serials) (Attribute.Homely T.homes) w w'
      (do return .value (← assignedValue s p text))
      (do return .value (← assignedValue s' (p.rename T.serials) text)) := fun _ _ =>
    (carries_assignedValue hs hp).bind fun v _ _ hv =>
      carries_pure (a := Attribute.value v) hv rfl
  refine carries_of_follows fun hw => ?_
  have hK : T.homes "builtins" := hw.renames.known _ (by decide)
  refine carries_sourceExpression.bind fun e w w' _ => ?_
  cases e with
  | call callee arguments named =>
    refine (carries_valueOf hs hp).bind fun f w w' _ => ?_
    split
    · exact carries_madeProperty hs hp (fun _ _ => rfl) hK
    · exact carries_madeProperty hs hp (fun _ _ => rfl) hK
    · next hproperty hcached =>
      split
      · next hf => exact (hproperty (rename_eq_library.mp hf)).elim
      · next hf => exact (hcached (rename_eq_library.mp hf)).elim
      · exact hvalue w w'
  | _ => exact hvalue w w'

theorem carries_dataOptions :
    T.Carries id (fun _ => True) w w' (dataOptions? s p text)
      (dataOptions? s' (p.rename T.serials) text) := by
  refine carries_sourceExpression.bind fun e _ _ _ => ?_
  cases e with
  | call callee arguments named =>
    refine (carries_valueOf hs hp).bind fun f _ _ _ => ?_
    split
    · refine (carries_words hs hp _).bind fun words _ _ _ => carries_pure trivial ?_
      rw [isSet_renamed, isSet_renamed, isSet_renamed]
      rfl
    · next hne =>
      split
      · next hf => exact (hne (rename_eq_function.mp hf)).elim
      · exact carries_pure trivial rfl
  | _ =>
    refine (carries_valueOf hs hp).bind fun f _ _ _ => ?_
    split
    · exact carries_pure trivial rfl
    · next hne =>
      split
      · next hf => exact (hne (rename_eq_function.mp hf)).elim
      · exact carries_pure trivial rfl

theorem carries_headerWords :
    T.CarriesNames w w' (headerWords s p text) (headerWords s' (p.rename T.serials) text) := by
  have hnil : ∀ w w', T.CarriesNames w w' (pure []) (pure []) := fun _ _ =>
    carries_pure (a := []) (fun _ h => (List.not_mem_nil h).elim) rfl
  unfold headerWords
  split
  · exact hnil w w'
  · refine carries_sourceExpression.bind fun e _ _ _ => ?_
    cases e with
    | call callee arguments named => exact carries_words hs hp named
    | _ => exact hnil _ _

end Texts

end Track

end Definition

end TypeProjection
