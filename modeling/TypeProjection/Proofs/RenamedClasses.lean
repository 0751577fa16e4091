import TypeProjection.Proofs.RenamedHeaders

/-!
# Classes under other serials

A class that is built of a renamed header and a renamed body is the renamed class, and whatever
cannot be built is refused with the same words. What was homely in the header and in the body is
homely in the class.
-/

namespace TypeProjection.Definition

open Annotation World
open Value (AllHomely allHomely_cons allHomely_nil)

/-- The body with its values renamed. -/
def Body.rename (ρ : Renaming) (body : Body) : Body :=
  ⟨renamedNames ρ body.annotations, renamedAttributes ρ body.attributes⟩

/-- All values of a body are homely. -/
structure Body.Homely (K : String → Prop) (body : Body) : Prop where
  annotations : HomelyNames K body.annotations
  attributes : HomelyAttributes K body.attributes

variable {ρ : Renaming} {K : String → Prop} {w w' : World} {v : Value} {xs : List Value}
  {h : Header} {body : Body} {info : ClassInfo} {attributes : List (String × Attribute)}

/-! Attributes. -/

theorem isAbstract_rename (a : Attribute) : (a.rename ρ).isAbstract = a.isAbstract := by
  cases a <;> rfl

theorem renamedAttributes_filter (p : String × Attribute → Bool)
    (hp : ∀ a, p (a.1, a.2.rename ρ) = p a) :
    (renamedAttributes ρ attributes).filter p = renamedAttributes ρ (attributes.filter p) := by
  unfold renamedAttributes
  rw [List.filter_map]
  congr 1
  exact List.filter_congr fun a _ => hp a

theorem renamedAttributes_append (more : List (String × Attribute)) :
    renamedAttributes ρ (attributes ++ more) =
      renamedAttributes ρ attributes ++ renamedAttributes ρ more :=
  List.map_append

theorem renamedAttributes_keys : (renamedAttributes ρ attributes).map (·.1) = attributes.map (·.1) := by
  rw [renamedAttributes, List.map_map]
  rfl

theorem renamedNames_keys (names : List (String × Value)) :
    (renamedNames ρ names).map (·.1) = names.map (·.1) := by
  rw [renamedNames, List.map_map]
  rfl

theorem homelyAttributes_filter {p : String × Attribute → Bool} (ha : HomelyAttributes K attributes) :
    HomelyAttributes K (attributes.filter p) :=
  fun a h => ha a (List.mem_filter.mp h).1

theorem putPair_map {α β : Type} (f : α → β) (name : String) (v : α) (entries : List (String × α)) :
    putPair name (f v) (entries.map fun e => (e.1, f e.2)) =
      (putPair name v entries).map fun e => (e.1, f e.2) := by
  induction entries with
  | nil => rfl
  | cons e entries ih =>
    rw [List.map_cons, putPair, putPair, ih]
    split <;> rfl

theorem putPair_renamedNames (name : String) (v : Value) (names : List (String × Value)) :
    putPair name (v.rename ρ) (renamedNames ρ names) = renamedNames ρ (putPair name v names) :=
  putPair_map (Value.rename ρ) name v names

theorem putPair_renamedAttributes (name : String) (a : Attribute) :
    putPair name (a.rename ρ) (renamedAttributes ρ attributes) =
      renamedAttributes ρ (putPair name a attributes) :=
  putPair_map (Attribute.rename ρ) name a attributes

theorem forall_putPair {α : Type} {P : α → Prop} {name : String} {v : α} {entries : List (String × α)}
    (he : ∀ e ∈ entries, P e.2) (hv : P v) : ∀ e ∈ putPair name v entries, P e.2 := by
  induction entries with
  | nil => exact List.forall_mem_singleton.mpr hv
  | cons e entries ih =>
    obtain ⟨he, hentries⟩ := List.forall_mem_cons.mp he
    unfold putPair
    split
    · exact List.forall_mem_cons.mpr ⟨hv, hentries⟩
    · exact List.forall_mem_cons.mpr ⟨he, ih hentries⟩

theorem putPairs_renamedNames (base entries : List (String × Value)) :
    putPairs (renamedNames ρ base) (renamedNames ρ entries) =
    renamedNames ρ (putPairs base entries) := by
  induction entries generalizing base with
  | nil => rfl
  | cons e entries ih =>
    have hstep : ∀ (base : List (String × Value)) (e : String × Value) (rest),
        putPairs base (e :: rest) = putPairs (putPair e.1 e.2 base) rest := fun _ _ _ => rfl
    change putPairs (renamedNames ρ base) ((e.1, e.2.rename ρ) :: renamedNames ρ entries) = _
    rw [hstep, hstep, putPair_renamedNames, ih]

theorem homelyNames_putPairs {base entries : List (String × Value)} (hb : HomelyNames K base)
    (he : HomelyNames K entries) : HomelyNames K (putPairs base entries) := by
  induction entries generalizing base with
  | nil => exact hb
  | cons e entries ih =>
    obtain ⟨he, hentries⟩ := List.forall_mem_cons.mp he
    exact ih (forall_putPair hb he) hentries

/-! Type parameters. -/

theorem sends_listedVariables :
    Sends (Option.map (List.map (Value.rename ρ))) (fun o => ∀ vs, o = some vs → AllHomely K vs)
      (listedVariables xs) (listedVariables (xs.map (Value.rename ρ))) := by
  induction xs with
  | nil => exact sends_ok nofun
  | cons v rest ih =>
    rw [List.map_cons]
    by_cases hv : ∃ c ys, v = .applied "" c ys
    · obtain ⟨c, ys, rfl⟩ := hv
      rw [Value.rename_applied, listedVariables, listedVariables]
      refine ih.bind fun others hothers => ?_
      rw [genericRoot, ClassRef.rename_beq_library, Value.variablesOfAll_rename]
      refine sends_ite (fun _ => ?_) fun _ => sends_pure hothers
      cases others with
      | some vs => exact sends_error
      | none =>
        refine sends_pure (f := Option.map (List.map (Value.rename ρ))) ?_
        rintro _ ⟨⟩
        exact Value.homely_variablesOfAll ys
    · have hv' : ∀ c ys, v.rename ρ = .applied "" c ys → False := by
        intro c ys hrename
        cases v with
        | applied n d zs =>
          rw [Value.rename_applied] at hrename
          cases hrename
          exact hv ⟨d, zs, rfl⟩
        | _ => simp at hrename
      rw [listedVariables.eq_3 _ _ fun c ys hc => hv ⟨c, ys, hc⟩, listedVariables.eq_3 _ _ hv']
      exact ih

theorem sends_typeParameters (hw : w.Renames ρ K w') {written : Option (List Value)}
    (hwritten : ∀ vs, written = some vs → AllHomely K vs) :
    Sends (List.map (Value.rename ρ)) (AllHomely K) (typeParameters w h written)
      (typeParameters w' (h.rename ρ) (written.map (List.map (Value.rename ρ)))) := by
  have hgeneric : ∀ v : Value, (v.rename ρ).same (.cls genericRoot) = v.same (.cls genericRoot) :=
    fun v => same_cls_rename v genericRoot
  have hcontains : (h.bases.map (ClassRef.rename ρ)).contains genericRoot =
      h.bases.contains genericRoot := contains_rename h.bases genericRoot
  unfold typeParameters
  cases written with
  | none =>
    dsimp only [Option.map_none]
    rw [bases_rename, hcontains]
    exact sends_ite (fun _ => sends_error) fun _ => sends_pure allHomely_nil
  | some vs =>
    dsimp only [Option.map_some]
    rw [any_rename hgeneric vs]
    refine sends_ite (fun _ => sends_error) fun _ => ?_
    rw [Value.variablesOfAll_rename]
    refine (sends_listedVariables (K := K)).bind fun o ho => ?_
    cases o with
    | none => exact sends_pure (Value.homely_variablesOfAll vs)
    | some listed =>
      have hlisted := ho listed rfl
      have hmissing : ((Value.variablesOfAll vs).map (Value.rename ρ)).filter
          (fun v => !(listed.map (Value.rename ρ)).any fun x => x.same v) =
          ((Value.variablesOfAll vs).filter fun v => !listed.any fun x => x.same v).map
            (Value.rename ρ) := by
        rw [List.filter_map]
        congr 1
        refine List.filter_congr fun v _ => ?_
        rw [Function.comp_apply, any_rename fun x => Value.same_rename x v]
      have hshown : ∀ ys : List Value, AllHomely K ys →
          (ys.map (Value.rename ρ)).map w'.shown = ys.map w.shown := by
        intro ys hys
        rw [List.map_map]
        exact List.map_congr_left fun y hy => hw.shown (hys y hy)
      have hvariables := Value.homely_variablesOfAll (K := K) vs
      dsimp only [Option.map_some]
      rw [hmissing, List.isEmpty_map, hshown listed hlisted,
        hshown _ fun y hy => hvariables y (List.mem_filter.mp hy).1]
      exact sends_ite (fun _ => sends_pure hlisted) fun _ => sends_error

/-! Methods to define. -/

theorem isMissing_rename (hw : w.Renames ρ K w') (order : List ClassRef) (name : String) :
    isMissing w' (renamedAttributes ρ attributes) (order.map (ClassRef.rename ρ)) name =
      isMissing w attributes order name := by
  unfold isMissing
  rw [lookup_renamedAttributes, List.findSome?_map]
  cases attributes.lookup name with
  | some a => exact isAbstract_rename a
  | none =>
    dsimp only [Option.map_none]
    congr 2
    funext c
    cases c with
    | library m n => rfl
    | declared i =>
      have hattributes := hw.attributesOf (c := .declared i)
      rw [Function.comp_apply]
      dsimp only [ClassRef.rename_declared] at hattributes ⊢
      rw [hattributes, lookup_renamedAttributes, Option.map_map]
      exact congrArg (fun f => Option.map f _) (funext isAbstract_rename)

theorem missingMethods_rename (hw : w.Renames ρ K w') (order : List ClassRef) :
    missingMethods w' (h.rename ρ) (renamedAttributes ρ attributes)
        (order.map (ClassRef.rename ρ)) =
      missingMethods w h attributes order := by
  have hown : ((renamedAttributes ρ attributes).filter fun a => a.2.isAbstract).map (·.1) =
      (attributes.filter fun a => a.2.isAbstract).map (·.1) := by
    rw [renamedAttributes_filter _ fun a => isAbstract_rename a.2, renamedAttributes_keys]
  have habove : ((h.bases.map (ClassRef.rename ρ)).flatMap w'.abstractsOf) =
      h.bases.flatMap w.abstractsOf := by
    rw [List.flatMap_map]
    exact List.flatMap_congr fun c _ => hw.abstractsOf
  have hmissing : isMissing w' (renamedAttributes ρ attributes) (order.map (ClassRef.rename ρ)) =
      isMissing w attributes order := funext (isMissing_rename hw order)
  unfold missingMethods
  rw [hown, bases_rename, habove, hmissing]
  rfl

theorem modelAttributes_rename :
    modelAttributes (body.rename ρ) = renamedAttributes ρ (modelAttributes body) := by
  have hnames : ∀ n, (body.rename ρ).annotations.lookup n =
      (body.annotations.lookup n).map (Value.rename ρ) := lookup_renamedNames body.annotations
  unfold modelAttributes
  rw [← renamedAttributes_filter]
  · refine List.filter_congr fun a _ => ?_
    rw [hnames]
    cases body.annotations.lookup a.1 with
    | none => rfl
    | some v => exact marksClassVar_rename v
  · exact fun a => rfl

/-! Protocols. -/

theorem fitsProtocol_rename (hw : w.Renames ρ K w') (c : ClassRef) :
    fitsProtocol w' (c.rename ρ) = fitsProtocol w c := by
  unfold fitsProtocol
  rw [hw.moduleOf, hw.nameOf, hw.hasProtocolMark, genericRoot, ClassRef.root, hw.derives_library,
    ClassRef.rename_beq_library, ClassRef.rename_beq_library]

theorem checkProtocol_rename (hw : w.Renames ρ K w') (bases : List ClassRef) :
    checkProtocol w' (bases.map (ClassRef.rename ρ)) = checkProtocol w bases := by
  have hfind : (bases.map (ClassRef.rename ρ)).find? (fun c => !fitsProtocol w' c) =
      (bases.find? fun c => !fitsProtocol w c).map (ClassRef.rename ρ) := by
    rw [List.find?_map]
    congr 2
    funext c
    rw [Function.comp_apply, fitsProtocol_rename hw]
  unfold checkProtocol
  rw [hfind]
  cases bases.find? fun c => !fitsProtocol w c with
  | none => rfl
  | some c => simp only [Option.map_some, hw.displayClass]

/-! Building. -/

section Building

variable (hw : w.Renames ρ K w') (hh : h.Homely K) (hb : body.Homely K)

theorem contains_root_rename (cs : List ClassRef) {m n : String} :
    (cs.map (ClassRef.rename ρ)).contains (.library m n) = cs.contains (.library m n) :=
  contains_rename cs (.library m n)

theorem written_rename (replaced : Bool) :
    (if replaced then some (xs.map (Value.rename ρ)) else none) =
      (if replaced then some xs else none).map (List.map (Value.rename ρ)) := by
  split <;> rfl

theorem homely_written {replaced : Bool} (hxs : AllHomely K xs) :
    ∀ vs, (if replaced then some xs else none) = some vs → AllHomely K vs := by
  intro vs hvs
  split at hvs
  · cases hvs
    exact hxs
  · cases hvs

theorem writtenBases_rename {o : Option (List Value)} (bases : List ClassRef) :
    (o.map (List.map (Value.rename ρ))).getD ((bases.map (ClassRef.rename ρ)).map Value.cls) =
      (o.getD (bases.map Value.cls)).map (Value.rename ρ) := by
  cases o with
  | some vs => rfl
  | none =>
    rw [Option.map_none, Option.getD_none, Option.getD_none, List.map_map, List.map_map]
    rfl

theorem homely_writtenBases {o : Option (List Value)} (ho : ∀ vs, o = some vs → AllHomely K vs)
    (bases : List ClassRef) : AllHomely K (o.getD (bases.map Value.cls)) := by
  cases o with
  | some vs => exact ho vs rfl
  | none =>
    intro v hv
    obtain ⟨c, -, rfl⟩ := List.mem_map.mp hv
    exact Value.homely_cls

/-- Annotations that are checked one by one. -/
theorem sends_checkedAnnotations (hw : w.Renames ρ K w') (use : String → World.TypeUse)
    (hm : ∀ n, K (use n).module) {annotations : List (String × Value)}
    (ha : HomelyNames K annotations) :
    Sends (renamedNames ρ) (HomelyNames K)
      (annotations.mapM fun a => do
        let v ← w.checkType (use a.1) a.2
        return (a.1, v))
      ((renamedNames ρ annotations).mapM fun a => do
        let v ← w'.checkType (use a.1) a.2
        return (a.1, v)) := by
  refine sends_mapM (g := fun a : String × Value => (a.1, a.2.rename ρ))
    (Q := fun a => a.2.Homely K) fun a hmem => ?_
  refine (hw.sends_checkType (hm a.1) (ha a hmem)).bind fun v hv => ?_
  exact sends_pure (f := fun a : String × Value => (a.1, a.2.rename ρ)) hv

theorem checkDefaults_rename (seen names : List String) :
    checkDefaults (renamedAttributes ρ attributes) seen names =
    checkDefaults attributes seen names := by
  induction names generalizing seen with
  | nil => rfl
  | cons n names ih =>
    rw [checkDefaults, checkDefaults, lookup_renamedAttributes, Option.isSome_map, ih, ih]

include hw hh hb

theorem sends_buildOrdinary :
    Sends (ClassInfo.rename ρ) (ClassInfo.Homely K) (buildOrdinary w h body)
      (buildOrdinary w' (h.rename ρ) (body.rename ρ)) := by
  unfold buildOrdinary
  extract_lets bases protocolBase written build bases' protocolBase' written' build'
  have hbases : bases' = bases.map (ClassRef.rename ρ) := effectiveBases_rename h
  have hown : ∀ m n, (h.rename ρ).bases.contains (.library m n) = h.bases.contains (.library m n) := by
    intro m n
    rw [bases_rename, contains_root_rename]
  have hprotocol : protocolBase' = protocolBase := congrArg₂ or (hown _ _) (hown _ _)
  have hwritten : written' = written.map (List.map (Value.rename ρ)) := written_rename h.replaced
  have hhomely : ∀ vs, written = some vs → AllHomely K vs := homely_written hh.written
  have hcheck : checkProtocol w' bases' = checkProtocol w bases := by
    rw [hbases, checkProtocol_rename hw]
  rw [hprotocol]
  refine sends_check hcheck ?_
  unfold build build'
  rw [hbases]
  refine (sends_lookupOrder hw bases).bind fun order _ => ?_
  have hroot : ∀ m n, (order.map (ClassRef.rename ρ)).contains (.library m n) =
      order.contains (.library m n) := fun m n => contains_root_rename order
  extract_lets isProtocol finish isProtocol' finish'
  have hkind : isProtocol' = isProtocol := by
    unfold isProtocol' isProtocol
    rw [laterProtocolRoot, protocolRoot, hroot, hroot, hown, hown]
  have hfinish : ∀ vs, AllHomely K vs →
      Sends (ClassInfo.rename ρ) (ClassInfo.Homely K) (finish vs)
        (finish' (vs.map (Value.rename ρ))) := by
    intro vs hvs
    unfold finish finish'
    rw [hkind, laterProtocolRoot, hroot]
    refine sends_check (by rw [checkProtocol_rename hw]) (sends_check rfl ?_)
    have hattributes : (if (h.rename ρ).metaclass == .model then modelAttributes (body.rename ρ)
          else (body.rename ρ).attributes) =
        renamedAttributes ρ (if h.metaclass == .model then modelAttributes body
          else body.attributes) := by
      rw [modelAttributes_rename]
      change (if h.metaclass == .model then _ else _) = _
      split <;> rfl
    have hmissing : missingMethods w' (h.rename ρ) (body.rename ρ).attributes
        (order.map (ClassRef.rename ρ)) = missingMethods w h body.attributes order :=
      missingMethods_rename hw order
    rw [hattributes, hmissing, hwritten, writtenBases_rename]
    refine sends_pure (f := ClassInfo.rename ρ) ⟨hh.module, homely_writtenBases hhomely _, hvs,
      hb.annotations, ?_⟩
    dsimp only
    split
    · exact homelyAttributes_filter hb.attributes
    · exact hb.attributes
  rw [genericRoot, hroot, hwritten]
  refine sends_ite (fun _ => ?_) fun _ => ?_
  · exact (sends_typeParameters hw hhomely).bind fun vs hvs => hfinish vs hvs
  · exact hfinish [] allHomely_nil

theorem sends_buildNamedTuple :
    Sends (ClassInfo.rename ρ) (ClassInfo.Homely K) (buildNamedTuple w h body)
      (buildNamedTuple w' (h.rename ρ) (body.rename ρ)) := by
  unfold buildNamedTuple
  extract_lets fits names isGeneric bases fields build names' isGeneric' bases' fields' build'
  have hnames : names' = names := renamedNames_keys body.annotations
  have hgeneric : isGeneric' = isGeneric := contains_baseRename h.entries (.cls genericRoot)
  have hfits : (h.rename ρ).entries.all fits = h.entries.all fits := by
    change (h.entries.map (Base.rename ρ)).all fits = _
    rw [List.all_map]
    refine Value.all_congr_mem fun b _ => ?_
    have htuple : (b.rename ρ == .namedTuple) = (b == .namedTuple) := baseRename_beq b .namedTuple
    have hroot : (b.rename ρ == .cls genericRoot) = (b == .cls genericRoot) :=
      baseRename_beq b (.cls genericRoot)
    unfold fits
    rw [Function.comp_apply, htuple, hroot]
  have hbases : bases' = bases.map (ClassRef.rename ρ) := by
    change (h.entries.map (Base.rename ρ)).map _ = (h.entries.map _).map _
    rw [List.map_map, List.map_map]
    refine List.map_congr_left fun b _ => ?_
    rw [Function.comp_apply, Function.comp_apply, class?_baseRename]
    cases b.class? <;> rfl
  rw [hfits]
  refine sends_check rfl ?_
  unfold build build'
  rw [hnames]
  have hdefaults : checkDefaults (body.rename ρ).attributes [] names =
      checkDefaults body.attributes [] names := checkDefaults_rename [] names
  have hkeys : (body.rename ρ).attributes.map (·.1) = body.attributes.map (·.1) :=
    renamedAttributes_keys
  rw [hdefaults]
  refine (sends_same _).bind fun _ _ => ?_
  have hchecked := sends_checkedAnnotations hw
    (fun n => { message := "field " ++ n ++ " annotation must be a type" }) (fun _ => hw.blank)
    hb.annotations
  refine hchecked.bind fun annotations hannotations => ?_
  rw [hkeys]
  extract_lets make finish checkAttributes make' finish' checkAttributes'
  have hattributes : HomelyAttributes K
      (fields ++ body.attributes.filter fun a => !names.contains a.1) := by
    intro a ha
    rcases List.mem_append.mp ha with ha | ha
    · obtain ⟨n, -, rfl⟩ := List.mem_map.mp ha
      exact Value.homely_other
    · exact hb.attributes a (List.mem_filter.mp ha).1
  have hfields : fields' ++ ((body.rename ρ).attributes.filter fun a => !names.contains a.1) =
      renamedAttributes ρ (fields ++ body.attributes.filter fun a => !names.contains a.1) := by
    have hown : fields' = renamedAttributes ρ fields := by
      unfold fields' fields renamedAttributes
      rw [hnames, List.map_map, List.map_map]
      rfl
    rw [renamedAttributes_append, hown, ← renamedAttributes_filter _ fun a => rfl]
    rfl
  have hmake : ∀ vs, AllHomely K vs → Sends (ClassInfo.rename ρ) (ClassInfo.Homely K) (make vs)
      (make' (vs.map (Value.rename ρ))) := by
    intro vs hvs
    unfold make make'
    rw [hgeneric, hbases, hfields]
    exact sends_pure (f := ClassInfo.rename ρ) ⟨hh.module, hh.written, hvs, hannotations, hattributes⟩
  have hfinish : Sends (ClassInfo.rename ρ) (ClassInfo.Homely K) (finish ()) (finish' ()) := by
    unfold finish finish'
    rw [hgeneric, hbases]
    refine (sends_lookupOrder hw bases).bind fun _ _ => sends_ite (fun _ => ?_) fun _ => ?_
    · have hwritten : ∀ vs, some h.written = some vs → AllHomely K vs := by
        rintro _ ⟨⟩
        exact hh.written
      exact (sends_typeParameters hw hwritten).bind fun vs hvs => hmake vs hvs
    · exact hmake [] allHomely_nil
  cases names.find? fun n => n.toList.head? == some '_' with
  | some n => exact sends_error
  | none =>
    unfold checkAttributes checkAttributes'
    cases (body.attributes.map (·.1)).find? tupleNames.contains with
    | some n => exact sends_error
    | none => exact hfinish

theorem sends_buildTypedDict :
    Sends (ClassInfo.rename ρ) (ClassInfo.Homely K) (buildTypedDict w h body)
      (buildTypedDict w' (h.rename ρ) (body.rename ρ)) := by
  unfold buildTypedDict
  extract_lets fits isGeneric bases written inherited finish build fits' isGeneric' bases' written'
    inherited' finish' build'
  have hfits : (h.rename ρ).entries.all fits' = h.entries.all fits := by
    change (h.entries.map (Base.rename ρ)).all fits' = _
    rw [List.all_map]
    refine Value.all_congr_mem fun b _ => ?_
    have hroot : (b.rename ρ == .cls genericRoot) = (b == .cls genericRoot) :=
      baseRename_beq b (.cls genericRoot)
    unfold fits fits'
    rw [Function.comp_apply, metaclassOfBase_rename hw, hroot]
  have hgeneric : isGeneric' = isGeneric := by
    unfold isGeneric isGeneric'
    rw [bases_rename, List.any_map]
    exact Value.any_congr_mem fun c _ => hw.derives_library
  have hbases : bases' = bases.map (ClassRef.rename ρ) := by
    unfold bases bases'
    rw [hgeneric]
    cases isGeneric <;> rfl
  have hwritten : written' = written.map (List.map (Value.rename ρ)) := written_rename h.replaced
  have hhomely : ∀ vs, written = some vs → AllHomely K vs := homely_written hh.written
  have hfold : ∀ (cs : List ClassRef) (all : List (String × Value)), HomelyNames K all →
      (cs.map (ClassRef.rename ρ)).foldl (fun all c => putPairs all (w'.annotationsOf c))
          (renamedNames ρ all) =
        renamedNames ρ (cs.foldl (fun all c => putPairs all (w.annotationsOf c)) all) ∧
      HomelyNames K (cs.foldl (fun all c => putPairs all (w.annotationsOf c)) all) := by
    intro cs
    induction cs with
    | nil => exact fun all hall => ⟨rfl, hall⟩
    | cons c cs ih =>
      intro all hall
      rw [List.map_cons, List.foldl_cons, List.foldl_cons, hw.annotationsOf, putPairs_renamedNames]
      exact ih _ (homelyNames_putPairs hall hw.homely_annotationsOf)
  obtain ⟨hinherited, hhomelyInherited⟩ := hfold h.bases [] homelyNames_nil
  have hinherited : inherited' = renamedNames ρ inherited := by
    unfold inherited'
    rw [bases_rename]
    exact hinherited
  rw [hfits]
  refine sends_check rfl ?_
  unfold build build'
  rw [hbases]
  refine (sends_lookupOrder hw bases).bind fun order _ => ?_
  have hfinish : ∀ vs, AllHomely K vs → Sends (ClassInfo.rename ρ) (ClassInfo.Homely K) (finish vs)
      (finish' (vs.map (Value.rename ρ))) := by
    intro vs hvs
    unfold finish finish'
    have hchecked := sends_checkedAnnotations hw
      (fun _ => { message := "TypedDict('Name', \x7bf0: t0, f1: t1, ...\x7d); each t must be a type",
                  module := h.module }) (fun _ => hh.module) hb.annotations
    refine hchecked.bind fun own hown => ?_
    rw [hwritten, hbases, hinherited, writtenBases_rename, putPairs_renamedNames]
    exact sends_pure (f := ClassInfo.rename ρ) ⟨hh.module, homely_writtenBases hhomely _, hvs,
      homelyNames_putPairs hhomelyInherited hown, hb.attributes⟩
  rw [genericRoot, contains_root_rename, hwritten]
  refine sends_ite (fun _ => ?_) fun _ => ?_
  · have hheader : ({ h.rename ρ with entries := (bases.map (ClassRef.rename ρ)).map .cls } : Header) =
        Header.rename ρ { h with entries := bases.map .cls } := by
      unfold Header.rename
      rw [List.map_map, List.map_map]
      rfl
    rw [hheader]
    exact (sends_typeParameters hw hhomely).bind fun vs hvs => hfinish vs hvs
  · exact hfinish [] allHomely_nil

/-- A class is built of renamed parts as the renamed class. -/
theorem sends_buildClass :
    Sends (ClassInfo.rename ρ) (ClassInfo.Homely K) (buildClass w h body)
      (buildClass w' (h.rename ρ) (body.rename ρ)) := by
  have htuple : (h.rename ρ).entries.contains .namedTuple = h.entries.contains .namedTuple :=
    contains_baseRename h.entries .namedTuple
  unfold buildClass
  rw [htuple]
  refine sends_ite (fun _ => sends_buildNamedTuple hw hh hb) fun _ => ?_
  exact sends_ite (fun _ => sends_buildTypedDict hw hh hb) fun _ => sends_buildOrdinary hw hh hb

end Building

/-! Data classes. -/

section DataClasses

theorem isSlot_rename (a : Attribute) : isSlot (a.rename ρ) = isSlot a := by
  cases a with
  | value v => cases v <;> simp [isSlot, Attribute.rename]
  | property g b => rfl
  | method b => rfl

theorem sharedDefault?_rename (hw : w.Renames ρ K w') (a : Attribute) :
    sharedDefault? w' (a.rename ρ) = sharedDefault? w a := by
  have hbuiltin : ∀ n, w'.displayClass (builtin n) = w.displayClass (builtin n) :=
    fun n => hw.displayClass (c := builtin n)
  cases a with
  | value v => cases v <;> simp [sharedDefault?, Attribute.rename, hbuiltin]
  | property g b => rfl
  | method b => rfl

theorem fieldDefault?_rename (hw : w.Renames ρ K w') (name : String) :
    fieldDefault? w' (info.rename ρ) name = (fieldDefault? w info name).map (Attribute.rename ρ) := by
  have hinherited : inheritedAttribute? w' (info.rename ρ) name =
      (inheritedAttribute? w info name).map (Attribute.rename ρ) := by
    have hown : (info.rename ρ).attributes.lookup name =
        (info.attributes.lookup name).map (Attribute.rename ρ) :=
      lookup_renamedAttributes info.attributes name
    have habove : (info.rename ρ).ancestors.findSome? (fun c => (w'.attributesOf c).lookup name) =
        (info.ancestors.findSome? fun c => (w.attributesOf c).lookup name).map
        (Attribute.rename ρ) := by
      change (info.ancestors.map (ClassRef.rename ρ)).findSome? _ = _
      rw [List.findSome?_map, List.map_findSome?]
      refine congrArg (fun f => info.ancestors.findSome? f) (funext fun c => ?_)
      rw [Function.comp_apply, Function.comp_apply, hw.attributesOf, lookup_renamedAttributes]
    unfold inheritedAttribute?
    rw [hown, habove]
    cases info.attributes.lookup name <;> rfl
  unfold fieldDefault?
  rw [hinherited, Option.filter_map]
  congr 2
  funext a
  rw [Function.comp_apply, isSlot_rename]

theorem collectFields_rename (hw : w.Renames ρ K w') (fields : List DataField)
    (annotations : List (String × Value)) :
    collectFields w' (info.rename ρ) fields (renamedNames ρ annotations) =
      collectFields w info fields annotations := by
  induction annotations generalizing fields with
  | nil => rfl
  | cons a annotations ih =>
    obtain ⟨n, v⟩ := a
    change collectFields w' (info.rename ρ) fields ((n, v.rename ρ) :: renamedNames ρ annotations) = _
    rw [collectFields, collectFields, isClassVar, marksClassVar_rename, ih,
      fieldDefault?_rename hw]
    dsimp only
    rw [Option.bind_map, Option.isSome_map, ih]
    have hshared : sharedDefault? w' ∘ Attribute.rename ρ = sharedDefault? w :=
      funext (sharedDefault?_rename hw)
    rw [hshared]
    rfl

theorem slotAttributes_rename (fields : List DataField) :
    slotAttributes (info.rename ρ) fields = renamedAttributes ρ (slotAttributes info fields) := by
  have hkeys : (info.rename ρ).annotations.map (·.1) = info.annotations.map (·.1) :=
    renamedNames_keys info.annotations
  unfold slotAttributes
  rw [hkeys]
  extract_lets names
  have hslots : renamedAttributes ρ (names.map fun n => (n, .value (.other "<slot>"))) =
      names.map fun n => (n, .value (.other "<slot>")) := by
    rw [renamedAttributes, List.map_map]
    rfl
  rw [renamedAttributes_append, ← renamedAttributes_filter _ fun a => rfl, hslots]
  rfl

theorem homely_slotAttributes {fields : List DataField} (ha : HomelyAttributes K info.attributes) :
    HomelyAttributes K (slotAttributes info fields) := by
  intro a h
  rcases List.mem_append.mp h with h | h
  · exact ha a (List.mem_filter.mp h).1
  · obtain ⟨n, -, rfl⟩ := List.mem_map.mp h
    exact Value.homely_other

theorem sends_makeDataClass (hw : w.Renames ρ K w') {options : DataOptions}
    (hi : info.Homely K) :
    Sends (ClassInfo.rename ρ) (ClassInfo.Homely K) (makeDataClass w options info)
      (makeDataClass w' options (info.rename ρ)) := by
  have habove : (info.rename ρ).ancestors.filterMap
      (fun c => (w'.info? c).bind ClassInfo.dataFields) =
        info.ancestors.filterMap fun c => (w.info? c).bind ClassInfo.dataFields := by
    change (info.ancestors.map (ClassRef.rename ρ)).filterMap _ = _
    rw [List.filterMap_map]
    refine List.filterMap_congr fun c _ => ?_
    rw [Function.comp_apply, hw.info?, Option.bind_map]
    rfl
  have hfields : ∀ fields, collectFields w' (info.rename ρ) fields (info.rename ρ).annotations =
      collectFields w info fields info.annotations :=
    fun fields => collectFields_rename hw fields info.annotations
  unfold makeDataClass
  rw [habove]
  simp -zeta only [hfields]
  extract_lets above inherited
  refine sends_ite (fun _ => sends_error) fun _ => sends_ite (fun _ => sends_error) fun _ => ?_
  refine (sends_same _).bind fun fields _ => ?_
  extract_lets finish finish'
  refine sends_check rfl ?_
  unfold finish finish'
  dsimp only [id]
  have hattributes : (if options.hasSlots then slotAttributes (info.rename ρ) fields
        else (info.rename ρ).attributes) =
      renamedAttributes ρ (if options.hasSlots then slotAttributes info fields
        else info.attributes) := by
    rw [slotAttributes_rename]
    split <;> rfl
  rw [hattributes]
  refine sends_pure (f := ClassInfo.rename ρ) { hi with attributes := ?_ }
  dsimp only
  split
  · exact homely_slotAttributes hi.attributes
  · exact hi.attributes

end DataClasses

/-! Enumerations. -/

section Enumerations

variable (hw : w.Renames ρ K w') (bases : List ClassRef)

include hw

theorem ancestors_rename :
    (bases.map (ClassRef.rename ρ)).flatMap w'.ancestorsOf =
      (bases.flatMap w.ancestorsOf).map (ClassRef.rename ρ) := by
  rw [List.flatMap_map, List.map_flatMap]
  exact List.flatMap_congr fun c _ => hw.ancestorsOf

theorem dataKindOf_rename : dataKindOf w' (bases.map (ClassRef.rename ρ)) = dataKindOf w bases := by
  have hkinds : ∀ k ∈ dataKinds, isLibrary k.1 = true := by decide
  unfold dataKindOf
  rw [ancestors_rename hw]
  dsimp only
  congr 2
  generalize dataKinds = kinds at hkinds
  induction kinds with
  | nil => rfl
  | cons k kinds ih =>
    obtain ⟨hk, hrest⟩ := List.forall_mem_cons.mp hkinds
    have hcontains : ((bases.flatMap w.ancestorsOf).map (ClassRef.rename ρ)).contains k.1 =
        (bases.flatMap w.ancestorsOf).contains k.1 := by
      rw [← rename_of_isLibrary (ρ := ρ) hk, contains_rename, rename_of_isLibrary hk]
    rw [List.find?_cons, List.find?_cons, hcontains, ih hrest]

theorem numberingOf_rename :
    numberingOf w' (bases.map (ClassRef.rename ρ)) = numberingOf w bases := by
  unfold numberingOf
  rw [ancestors_rename hw, flagRoot]
  dsimp only
  rw [contains_root_rename, contains_root_rename]

theorem checkEnumBases_rename (name : String) :
    checkEnumBases w' name (bases.map (ClassRef.rename ρ)) = checkEnumBases w name bases := by
  have hfind : ((bases.flatMap w.ancestorsOf).map (ClassRef.rename ρ)).find?
      (fun c => w'.isEnumeration c && !(w'.membersOf c).isEmpty) =
      ((bases.flatMap w.ancestorsOf).find?
        fun c => w.isEnumeration c && !(w.membersOf c).isEmpty).map (ClassRef.rename ρ) := by
    rw [List.find?_map]
    congr 2
    funext c
    rw [Function.comp_apply, hw.isEnumeration, hw.membersOf]
  have hlast : (bases.map (ClassRef.rename ρ)).getLast?.map w'.isEnumeration =
      bases.getLast?.map w.isEnumeration := by
    rw [List.getLast?_map, Option.map_map]
    exact congrArg (fun f => bases.getLast?.map f) (funext fun _ => hw.isEnumeration)
  unfold checkEnumBases
  rw [ancestors_rename hw, hlast]
  dsimp only
  rw [hfind]
  cases (bases.flatMap w.ancestorsOf).find?
    fun c => w.isEnumeration c && !(w.membersOf c).isEmpty with
  | none => rfl
  | some c => simp only [Option.map_some, hw.displayClass]

theorem enumMembers_rename (d : EnumDefinition) :
    enumMembers w' d (bases.map (ClassRef.rename ρ)) = enumMembers w d bases := by
  unfold enumMembers
  rw [checkEnumBases_rename hw, numberingOf_rename hw, dataKindOf_rename hw]

end Enumerations

end TypeProjection.Definition
