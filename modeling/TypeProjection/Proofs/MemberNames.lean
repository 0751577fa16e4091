import TypeProjection.Proofs.AffectedMembers
import TypeProjection.Proofs.KeyedLists
import TypeProjection.Proofs.Population
import TypeProjection.Proofs.ReferenceGrammar
import TypeProjection.Proofs.TwinModules

/-!
# The names of members

What a body binds and annotates it keeps in the order in which the names come first, however often
they come again (`binds_runBody`). The three ways of making a class and the decorators that make it
a data class keep all annotations and take properties away at most, without changing their order
(`arranged_finished`). So the members of a class can be read off its body, as far as their names go:
fields, then properties. Both come from finite maps of their own, and a name can be a key of both.
-/

namespace TypeProjection.Definition

open Annotation

/-! ### What a body binds -/

/-- The name that an item of a body annotates. -/
def BodyItem.annotated (owner : String) : BodyItem → List String
  | .field written _ _ => [nameIn owner written]
  | _ => []

/-- The names that are annotated in the body of a class, in order. -/
def ClassDefinition.annotated (d : ClassDefinition) : List String :=
  distinct (d.body.flatMap (BodyItem.annotated d.owner))

/-- The names that are bound in the body of a class, in order. -/
def ClassDefinition.bound (d : ClassDefinition) : List String :=
  distinct (d.body.flatMap (BodyItem.bound d.owner))

/-- A body in which no name has two entries. -/
structure Body.Apart (b : Body) : Prop where
  annotations : (keys b.annotations).Nodup
  attributes : (keys b.attributes).Nodup

/-- The names of a body after some items: those from before, and the items' own in order. -/
structure Binds (owner : String) (items : List BodyItem) (before after : Body) : Prop where
  annotations : keys after.annotations =
    distinct (keys before.annotations ++ items.flatMap (BodyItem.annotated owner))
  attributes : keys after.attributes =
    distinct (keys before.attributes ++ items.flatMap (BodyItem.bound owner))

section Bodies

variable {owner : String} {items rest : List BodyItem} {item : BodyItem}
  {b before after last : Body} {w w' : World} {s : Setting} {p : Spot} {name : String} {v : Value}

theorem Binds.apart (h : Binds owner items before after) : after.Apart :=
  ⟨h.annotations ▸ nodup_distinct _, h.attributes ▸ nodup_distinct _⟩

theorem binds_nil (h : b.Apart) : Binds owner [] b b := by
  constructor
  · rw [List.flatMap_nil, List.append_nil, distinct_of_nodup h.annotations]
  · rw [List.flatMap_nil, List.append_nil, distinct_of_nodup h.attributes]

theorem Binds.append (h : Binds owner items before after) (h' : Binds owner rest after last) :
    Binds owner (items ++ rest) before last := by
  constructor
  · rw [h'.annotations, h.annotations, distinct_append_left, List.flatMap_append, List.append_assoc]
  · rw [h'.attributes, h.attributes, distinct_append_left, List.flatMap_append, List.append_assoc]

/-- An item that annotates nothing and binds one name. -/
theorem binds_put {a : Attribute} (h : b.Apart) (hannotated : item.annotated owner = [])
    (hbound : item.bound owner = [name]) : Binds owner [item] b (b.put name a) := by
  constructor
  · rw [List.flatMap_singleton, hannotated, List.append_nil, distinct_of_nodup h.annotations]
    rfl
  · rw [List.flatMap_singleton, hbound]
    exact keys_putPair_eq_distinct h.attributes

theorem binds_field {written annotation : String} (h : b.Apart) :
    Binds owner [.field written annotation none] b
      ⟨putPair (nameIn owner written) v b.annotations, b.attributes⟩ := by
  constructor
  · rw [List.flatMap_singleton]
    exact keys_putPair_eq_distinct h.annotations
  · have hbound : (BodyItem.field written annotation none).bound owner = [] := rfl
    rw [List.flatMap_singleton, hbound, List.append_nil, distinct_of_nodup h.attributes]

theorem binds_fieldWithValue {written annotation text : String} {a : Attribute} (h : b.Apart) :
    Binds owner [.field written annotation (some text)] b
      ⟨putPair (nameIn owner written) v b.annotations,
        putPair (nameIn owner written) a b.attributes⟩ := by
  constructor
  · rw [List.flatMap_singleton]
    exact keys_putPair_eq_distinct h.annotations
  · rw [List.flatMap_singleton]
    exact keys_putPair_eq_distinct h.attributes

theorem binds_runItem (ho : p.owner = some owner) (h : before.Apart)
    (hrun : (runItem s p before item).run.run w = (.ok after, w')) :
    Binds owner [item] before after := by
  cases item with
  | field written annotation value =>
    cases value with
    | none =>
      rw [runItem, pure_bind] at hrun
      obtain ⟨v, w₁, -, hrun⟩ := run_bind_ok.mp hrun
      obtain ⟨rfl, -⟩ := run_pure_ok.mp hrun
      rw [known_eq ho]
      exact binds_field h
    | some text =>
      rw [runItem] at hrun
      obtain ⟨a, w₁, -, hrun⟩ := run_bind_ok.mp hrun
      rw [pure_bind] at hrun
      obtain ⟨v, w₂, -, hrun⟩ := run_bind_ok.mp hrun
      obtain ⟨rfl, -⟩ := run_pure_ok.mp hrun
      rw [known_eq ho]
      exact binds_fieldWithValue h
  | assignment written text =>
    rw [runItem] at hrun
    obtain ⟨a, w₁, -, hrun⟩ := run_bind_ok.mp hrun
    obtain ⟨rfl, -⟩ := run_pure_ok.mp hrun
    exact binds_put h rfl (congrArg (fun n => [n]) (known_eq ho written).symm)
  | property kind written returns =>
    rw [runItem] at hrun
    obtain ⟨a, w₁, -, hrun⟩ := run_bind_ok.mp hrun
    obtain ⟨rfl, -⟩ := run_pure_ok.mp hrun
    exact binds_put h rfl (congrArg (fun n => [n]) (known_eq ho written).symm)
  | writeOnly written =>
    rw [runItem] at hrun
    obtain ⟨rfl, -⟩ := run_pure_ok.mp hrun
    exact binds_put h rfl (congrArg (fun n => [n]) (known_eq ho written).symm)
  | method written isAbstract =>
    rw [runItem] at hrun
    obtain ⟨rfl, -⟩ := run_pure_ok.mp hrun
    exact binds_put h rfl (congrArg (fun n => [n]) (known_eq ho written).symm)
  | cls d =>
    rw [runItem] at hrun
    obtain ⟨a, w₁, -, hrun⟩ := run_bind_ok.mp hrun
    obtain ⟨rfl, -⟩ := run_pure_ok.mp hrun
    exact binds_put h rfl (congrArg (fun n => [n]) (known_eq ho d.name).symm)
  | enum d =>
    rw [runItem] at hrun
    obtain ⟨a, w₁, -, hrun⟩ := run_bind_ok.mp hrun
    obtain ⟨rfl, -⟩ := run_pure_ok.mp hrun
    exact binds_put h rfl (congrArg (fun n => [n]) (known_eq ho d.name).symm)

/-- A body binds the names of its items, one after another. -/
theorem binds_runBody (ho : p.owner = some owner) (h : before.Apart)
    (hrun : (runBody s p before items).run.run w = (.ok after, w')) :
    Binds owner items before after := by
  induction items generalizing before w p with
  | nil =>
    rw [runBody] at hrun
    obtain ⟨rfl, -⟩ := run_pure_ok.mp hrun
    exact binds_nil h
  | cons item rest ih =>
    rw [runBody] at hrun
    obtain ⟨more, w₁, hitem, hrest⟩ := run_bind_ok.mp hrun
    have ho' : Spot.owner ⟨attributeValues s (String.intercalate "." p.path) before.attributes,
        p.owner, p.path⟩ = some owner := ho
    have hfirst : Binds owner [item] before more := binds_runItem ho' h hitem
    exact hfirst.append (ih ho hfirst.apart hrest)

end Bodies

end TypeProjection.Definition

namespace TypeProjection.Annotation

/-- Is the attribute a property that can be read? -/
def Attribute.isReadable : Attribute → Bool
  | .property (some _) _ => true
  | _ => false

end TypeProjection.Annotation

namespace TypeProjection.Definition

open Annotation

/-! ### What a class keeps of a body -/

/-- No name has two attributes, and the properties that can be read are some of those from before,
in the same order. -/
structure Retains (before after : List (String × Attribute)) : Prop where
  apart : (keys after).Nodup
  properties : ∃ p : String → Bool, after.filter (fun a => a.2.isReadable) =
    before.filter fun a => p a.1 && a.2.isReadable

section Classes

variable {w w' : World} {h : Header} {body : Body} {info : ClassInfo} {v : Value} {c : ClassRef}
  {options : List (Option DataOptions)} {xs ys zs : List (String × Attribute)} {names : List String}

theorem Retains.refl (h : (keys xs).Nodup) : Retains xs xs :=
  ⟨h, fun _ => true, rfl⟩

theorem Retains.trans (h : Retains xs ys) (h' : Retains ys zs) : Retains xs zs := by
  obtain ⟨p, hp⟩ := h.properties
  obtain ⟨q, hq⟩ := h'.properties
  refine ⟨h'.apart, fun n => q n && p n, ?_⟩
  rw [hq, ← List.filter_filter, hp, List.filter_filter]
  exact List.filter_congr fun a _ => (Bool.and_assoc ..).symm

theorem keys_filter_sublist (p : String × Attribute → Bool) :
    (keys (xs.filter p)).Sublist (keys xs) :=
  List.filter_sublist.map _

theorem retains_filter (h : (keys xs).Nodup) (p : String → Bool) :
    Retains xs (xs.filter fun a => p a.1) := by
  refine ⟨h.sublist (keys_filter_sublist _), p, ?_⟩
  rw [List.filter_filter]
  exact List.filter_congr fun a _ => Bool.and_comm ..

/-- The mark of a field cannot be read as a property. -/
theorem filter_marks {mark : Attribute} (hmark : mark.isReadable = false) :
    (names.map fun n => (n, mark)).filter (fun a => a.2.isReadable) = [] := by
  rw [List.filter_eq_nil_iff]
  rintro a ha
  obtain ⟨n, -, rfl⟩ := List.mem_map.mp ha
  simp [hmark]

theorem keys_marks (names : List String) (mark : Attribute) :
    keys (names.map fun n => (n, mark)) = names := by
  unfold keys
  rw [List.map_map]
  exact List.map_id _

/-- The names that are marked have nothing else left. -/
theorem disjoint_unmarked :
    (keys (xs.filter fun a => !names.contains a.1)).Disjoint names := by
  intro n hn hmem
  obtain ⟨a, ha, rfl⟩ := List.mem_map.mp hn
  have hout := (List.mem_filter.mp ha).2
  simp [hmem] at hout

theorem retains_marked {mark : Attribute} (hmark : mark.isReadable = false) (hnames : names.Nodup)
    (h : (keys xs).Nodup) :
    Retains xs ((xs.filter fun a => !names.contains a.1) ++ names.map fun n => (n, mark)) ∧
      Retains xs ((names.map fun n => (n, mark)) ++ xs.filter fun a => !names.contains a.1) := by
  obtain ⟨hapart, p, hp⟩ := retains_filter h fun n => !names.contains n
  have hkeys := keys_marks names mark
  refine ⟨⟨?_, p, ?_⟩, ⟨?_, p, ?_⟩⟩
  · unfold keys at hkeys ⊢
    rw [List.map_append, hkeys]
    exact List.Nodup.append hapart hnames disjoint_unmarked
  · rw [List.filter_append, hp, filter_marks hmark, List.append_nil]
  · unfold keys at hkeys ⊢
    rw [List.map_append, hkeys]
    exact List.Nodup.append hnames hapart fun n hn hmem => disjoint_unmarked hmem hn
  · rw [List.filter_append, hp, filter_marks hmark, List.nil_append]

/-- A class annotates what its body does, after what dictionaries above it do, and keeps properties
of its body. -/
structure Arranged (w : World) (above : List ClassRef) (body : Body) (info : ClassInfo) : Prop where
  none : info.metaclass ≠ .typedDict → above = []
  dicts : ∀ c ∈ above, w.metaclassOf c = .typedDict ∨ c = World.genericRoot
  annotations : keys info.annotations =
    distinct (above.flatMap (fun c => keys (w.annotationsOf c)) ++ keys body.annotations)
  attributes : Retains body.attributes info.attributes

theorem arranged_plain (h : body.Apart)
    (hannotations : keys info.annotations = keys body.annotations)
    (hattributes : Retains body.attributes info.attributes) : Arranged w [] body info :=
  ⟨fun _ => rfl, fun _ hc => (List.not_mem_nil hc).elim,
    hannotations.trans (distinct_of_nodup h.annotations).symm, hattributes⟩

theorem arranged_buildOrdinary (hb : body.Apart) :
    Gives (buildOrdinary w h body) (Arranged w [] body) := by
  unfold buildOrdinary
  extract_lets bases protocolBase written build
  refine gives_check ?_
  unfold build
  rw [gives_bind]
  intro order _
  extract_lets isProtocol finish
  have hfinish : ∀ vs, Gives (finish vs) (Arranged w [] body) := by
    intro vs
    refine gives_check (gives_check (gives_ok.mpr (arranged_plain hb rfl ?_)))
    dsimp only
    split
    · rw [Likeness.modelAttributes_eq]
      exact retains_filter hb.attributes _
    · exact .refl hb.attributes
  split
  · exact gives_bind.mpr fun vs _ => hfinish vs
  · exact gives_bind.mpr fun vs _ => hfinish vs

theorem keys_checked {use : String × Value → World.TypeUse}
    {annotations made : List (String × Value)} (hmade : (annotations.mapM fun a => do
      let v ← w.checkType (use a) a.2
      return (a.1, v)) = .ok made) : keys made = keys annotations := by
  have hpairs := World.mapM_eq_ok.mp hmade
  clear hmade
  induction hpairs with
  | nil => rfl
  | cons ha _ ih =>
    obtain ⟨v, -, ha⟩ := World.bind_eq_ok.mp ha
    cases ha
    rw [keys_cons, keys_cons, ih]

theorem arranged_buildNamedTuple (hb : body.Apart) :
    Gives (buildNamedTuple w h body) (Arranged w [] body) := by
  unfold buildNamedTuple
  extract_lets fits names isGeneric bases fields build
  have hattributes : Retains body.attributes
      (fields ++ body.attributes.filter fun a => !names.contains a.1) :=
    (retains_marked rfl hb.annotations hb.attributes).2
  refine gives_check ?_
  unfold build
  rw [gives_bind]
  intro _ _
  rw [gives_bind]
  intro annotations hchecked
  extract_lets make finish checkAttributes
  have hmake : ∀ vs, Gives (make vs) (Arranged w [] body) := fun vs =>
    gives_ok.mpr (arranged_plain hb (keys_checked hchecked) hattributes)
  have hfinish : Gives (finish ()) (Arranged w [] body) := by
    unfold finish
    rw [gives_bind]
    intro _ _
    split
    · exact gives_bind.mpr fun vs _ => hmake vs
    · exact gives_bind.mpr fun vs _ => hmake vs
  split
  · exact gives_bind.mpr gives_error
  unfold checkAttributes
  split
  · exact gives_bind.mpr gives_error
  · exact hfinish

/-- What dictionaries above annotate, one after another. -/
theorem keys_inherited (classes : List ClassRef) {base : List (String × Value)}
    (h : (keys base).Nodup) :
    keys (classes.foldl (fun all c => putPairs all (w.annotationsOf c)) base) =
      distinct (keys base ++ classes.flatMap fun c => keys (w.annotationsOf c)) := by
  induction classes generalizing base with
  | nil => rw [List.foldl_nil, List.flatMap_nil, List.append_nil, distinct_of_nodup h]
  | cons c classes ih =>
    have hput : keys (putPairs base (w.annotationsOf c)) =
        distinct (keys base ++ keys (w.annotationsOf c)) := keys_putPairs_eq_distinct h
    rw [List.foldl_cons, ih (hput ▸ nodup_distinct _), hput, distinct_append_left,
      List.flatMap_cons, List.append_assoc]

theorem arranged_buildTypedDict (hb : body.Apart) :
    Gives (buildTypedDict w h body) fun info => ∃ above, Arranged w above body info := by
  unfold buildTypedDict
  extract_lets fits isGeneric bases written inherited finish build
  refine gives_ite (fun _ => gives_bind.mpr gives_error) fun hfits => ?_
  have hdicts : ∀ c ∈ h.bases, w.metaclassOf c = .typedDict ∨ c = World.genericRoot := by
    have hall : h.entries.all fits = true := by simpa using hfits
    intro c hc
    obtain ⟨b, hb, hbc⟩ := List.mem_filterMap.mp hc
    have hfit := List.all_eq_true.mp hall b hb
    cases b with
    | cls c' =>
      cases hbc
      simpa [fits, metaclassOfBase] using hfit
    | namedTuple => cases hbc
    | typedDict => cases hbc
  have hinherited : keys inherited = distinct (h.bases.flatMap fun c => keys (w.annotationsOf c)) :=
    keys_inherited h.bases List.nodup_nil
  have hfinish : ∀ vs, Gives (finish vs) fun info => ∃ above, Arranged w above body info := by
    intro vs
    unfold finish
    rw [gives_bind]
    intro own hown
    refine gives_ok.mpr ⟨h.bases, fun hd => (hd rfl).elim, hdicts, ?_, .refl hb.attributes⟩
    change keys (putPairs inherited own) = _
    rw [keys_putPairs_eq_distinct (hinherited ▸ nodup_distinct _), hinherited, distinct_append_left,
      keys_checked hown]
  unfold build
  rw [gives_bind]
  intro order _
  split
  · exact gives_bind.mpr fun vs _ => hfinish vs
  · exact gives_bind.mpr fun vs _ => hfinish vs

theorem arranged_buildClass (hb : body.Apart) :
    Gives (buildClass w h body) fun info => ∃ above, Arranged w above body info := by
  unfold buildClass
  split
  · exact (arranged_buildNamedTuple hb).mono fun _ hi => ⟨[], hi⟩
  split
  · exact arranged_buildTypedDict hb
  · exact (arranged_buildOrdinary hb).mono fun _ hi => ⟨[], hi⟩

theorem Arranged.nodup {above : List ClassRef} (h : Arranged w above body info) :
    (keys info.annotations).Nodup := h.annotations ▸ nodup_distinct _

/-- A data class keeps the arrangement; slots take the values of fields away. -/
theorem Arranged.dataClass {above : List ClassRef} {o : DataOptions}
    (ha : Arranged w above body info) :
    Gives (makeDataClass w o info) (Arranged w above body) := by
  unfold makeDataClass
  extract_lets above' inherited
  refine gives_ite (fun _ => gives_error) fun _ => gives_ite (fun _ => gives_error) fun _ => ?_
  rw [gives_bind]
  intro fields _
  extract_lets finish
  refine gives_check (gives_ok.mpr ⟨ha.none, ha.dicts, ha.annotations, ?_⟩)
  dsimp only
  split
  · unfold slotAttributes
    have hnames : ((keys info.annotations).filter fun n => fields.any fun f => f.name == n).Nodup :=
      ha.nodup.filter _
    exact ha.attributes.trans (retains_marked rfl hnames ha.attributes.apart).1
  · exact ha.attributes

theorem Arranged.decorated {above : List ClassRef} (ha : Arranged w above body info) :
    Gives (decorated w options info) (Arranged w above body) := by
  unfold Definition.decorated
  refine gives_foldlM (fun o _ i hi => ?_) ha
  cases o with
  | none => exact gives_ok.mpr hi
  | some o => exact hi.dataClass

theorem arranged_finished (hb : body.Apart) :
    Gives (finished w h body options) fun info => ∃ above, Arranged w above body info := by
  unfold finished
  rw [gives_bind]
  refine (arranged_buildClass hb).mono ?_
  rintro info ⟨above, hi⟩
  have hstart : Arranged w above body { info with
      ancestors := (World.orderOf? info.bases (info.bases.map w.ancestorsOf)).getD [] } :=
    ⟨hi.none, hi.dicts, hi.annotations, hi.attributes⟩
  exact hstart.decorated.mono fun made hmade => ⟨above, hmade⟩

end Classes

end TypeProjection.Definition

namespace TypeProjection.Annotation.World

open Definition

/-! ### What a class lists -/

variable {w w' : World} {c : ClassRef}

/-- Does a class list a name as a field? Its annotation must neither mark something else nor turn
out to. -/
def listsField (w : World) (c : ClassRef) (name : String) : Bool :=
  !isHidden name && ((w.annotationsOf c).lookup name).any fun v =>
    marksField v && marksField (w.annotationType (w.classNames c) (w.moduleOf c) v).1

/-- Does a class list a name as a property? -/
def listsProperty (w : World) (c : ClassRef) (name : String) : Bool :=
  !isHidden name && ((w.attributesOf c).lookup name).any Attribute.isReadable

theorem keys_members_fields (h : (keys (w.annotationsOf c)).Nodup) :
    keys ((w.annotationsOf c).filterMap (w.fieldMember (w.classNames c) (w.moduleOf c))) =
      (keys (w.annotationsOf c)).filter (w.listsField c) := by
  let P : String → Value → Bool := fun n v => !isHidden n &&
    (marksField v && marksField (w.annotationType (w.classNames c) (w.moduleOf c) v).1)
  have hmember : ∀ a, (w.fieldMember (w.classNames c) (w.moduleOf c) a).map (·.1) =
      if P a.1 a.2 then some a.1 else none := by
    intro a
    unfold fieldMember
    dsimp only [P]
    rw [Bool.and_assoc]
    split <;> rfl
  rw [keys_filterMap hmember, keys_filter h]
  refine List.filter_congr fun n _ => ?_
  unfold listsField
  cases (w.annotationsOf c).lookup n with
  | none => exact (Bool.and_false _).symm
  | some v => rfl

theorem keys_members_properties :
    keys (((w.attributesOf c).filterMap w.propertyType?).map fun m => (m.1.1, w.describe m.1.2)) =
      (keys ((w.attributesOf c).filter fun a => a.2.isReadable)).filter fun n => !isHidden n := by
  let P : String → Attribute → Bool := fun n a => !isHidden n && a.isReadable
  have hmember : ∀ a, ((w.propertyType? a).map fun m => (m.1.1, w.describe m.1.2)).map (·.1) =
      if P a.1 a.2 then some a.1 else none := by
    rintro ⟨n, a⟩
    unfold propertyType?
    dsimp only [P]
    cases a with
    | value v => simp [Attribute.isReadable]
    | method b => simp [Attribute.isReadable]
    | property g b =>
      cases g with
      | none => simp [Attribute.isReadable]
      | some g =>
        by_cases hn : isHidden n = true
        · simp [hn]
        · simp [Attribute.isReadable, hn]
  rw [List.map_filterMap, keys_filterMap hmember]
  unfold keys
  rw [List.filter_map, List.filter_filter]
  rfl

/-- The properties that a class retains of a body are listed in the order of the body. -/
theorem keys_retained {before : List (String × Attribute)} (hbefore : (keys before).Nodup)
    (h : Retains before (w.attributesOf c)) :
    (keys ((w.attributesOf c).filter fun a => a.2.isReadable)).filter (fun n => !isHidden n) =
      (keys before).filter (w.listsProperty c) := by
  obtain ⟨p, hp⟩ := h.properties
  have hmem : ∀ a ∈ before, (p a.1 && a.2.isReadable) =
      ((w.attributesOf c).lookup a.1).any Attribute.isReadable := by
    intro a ha
    rw [Bool.eq_iff_iff]
    constructor
    · intro hkept
      have hafter : a ∈ (w.attributesOf c).filter fun a => a.2.isReadable :=
        hp ▸ List.mem_filter.mpr ⟨ha, hkept⟩
      obtain ⟨hafter, hread⟩ := List.mem_filter.mp hafter
      rw [lookup_of_mem h.apart hafter]
      exact hread
    · intro hread
      obtain ⟨v, hv, hread⟩ := (Option.any_eq_true ..).mp hread
      have hafter : (a.1, v) ∈ (w.attributesOf c).filter fun a => a.2.isReadable :=
        List.mem_filter.mpr ⟨mem_of_lookup hv, hread⟩
      rw [hp] at hafter
      obtain ⟨hin, hkept⟩ := List.mem_filter.mp hafter
      have hsame : v = a.2 :=
        Option.some.inj ((lookup_of_mem hbefore hin).symm.trans (lookup_of_mem hbefore ha))
      rw [hsame] at hkept
      exact hkept
  rw [hp]
  unfold keys
  rw [List.filter_map, List.filter_filter, List.filter_map]
  congr 1
  refine List.filter_congr fun a ha => ?_
  rw [hmem a ha]
  rfl

end TypeProjection.Annotation.World

namespace TypeProjection.Definition

open Annotation

/-- A class that has been made is the newest of the world. -/
theorem adding_ok {w w' : World} {make : World → Except Fault ClassInfo} {v : Value}
    (hrun : (adding make).run.run w = (.ok v, w')) : ∃ info made, make w = .ok info ∧
      v = .cls (.declared w.classes.size) ∧ w' = { w with classes := w.classes.push made } ∧
      made.annotations = info.annotations ∧ made.attributes = info.attributes ∧
      made.metaclass = info.metaclass := by
  unfold adding at hrun
  obtain ⟨w₁, w₂, hget, hrun⟩ := run_bind_ok.mp hrun
  cases hget
  obtain ⟨info, w₃, hmade, hrun⟩ := run_bind_ok.mp hrun
  cases hmake : make w with
  | error f =>
    rw [hmake] at hmade
    cases hmade
  | ok i =>
    rw [hmake] at hmade
    cases hmade
    cases hrun
    exact ⟨info, _, rfl, rfl, rfl, rfl, rfl, rfl⟩

/-- Every class that a definition makes is arranged as its body says. -/
theorem arranged_runClass {s : Setting} {p : Spot} {d : ClassDefinition} {w w' : World} {v : Value}
    (hrun : (runClass s p d).run.run w = (.ok v, w')) : ∃ i info above contents,
      v = .cls (.declared i) ∧ w'.classes[i]? = some info ∧ Arranged w' above contents info ∧
      Binds d.owner d.body ⟨[], []⟩ contents := by
  obtain ⟨written, bases, decorators, header, items⟩ := d
  rw [runClass] at hrun
  obtain ⟨options, w₁, -, hrun⟩ := run_bind_ok.mp hrun
  obtain ⟨values, w₂, -, hrun⟩ := run_bind_ok.mp hrun
  obtain ⟨words, w₃, -, hrun⟩ := run_bind_ok.mp hrun
  obtain ⟨_, w₄, -, hrun⟩ := run_bind_ok.mp hrun
  obtain ⟨h, w₅, -, hrun⟩ := run_bind_ok.mp hrun
  obtain ⟨contents, w₆, hbody, hrun⟩ := run_bind_ok.mp hrun
  have hempty : Body.Apart ⟨[], []⟩ := ⟨List.nodup_nil, List.nodup_nil⟩
  have hbinds := binds_runBody rfl hempty hbody
  rw [finishClass_eq] at hrun
  obtain ⟨info, made, hmade, rfl, rfl, hannotations, hattributes, hmetaclass⟩ := adding_ok hrun
  obtain ⟨above, ha⟩ := arranged_finished hbinds.apart info hmade
  refine ⟨w₆.classes.size, made, above, contents, rfl, Array.getElem?_push_size, ?_, hbinds⟩
  have hgrown : ∀ c ∈ above,
      World.info? { w₆ with classes := w₆.classes.push made } c = w₆.info? c ∧
      World.metaclassOf { w₆ with classes := w₆.classes.push made } c = w₆.metaclassOf c := by
    intro c hc
    cases c with
    | library m n => exact ⟨rfl, rfl⟩
    | declared j =>
      have hold : (w₆.classes.push made)[j]? = w₆.classes[j]? := by
        rw [Array.getElem?_push, if_neg]
        rintro rfl
        have hplain : w₆.metaclassOf (.declared w₆.classes.size) = .plain := by
          unfold World.metaclassOf
          dsimp only
          rw [Array.getElem?_eq_none_iff.mpr (Nat.le_refl _)]
          rfl
        rcases ha.dicts _ hc with hdict | hroot
        · rw [hplain] at hdict
          cases hdict
        · cases hroot
      exact ⟨hold, congrArg (fun i => (i.map ClassInfo.metaclass).getD .plain) hold⟩
  constructor
  · exact fun hd => ha.none (hmetaclass ▸ hd)
  · intro c hc
    rw [(hgrown c hc).2]
    exact ha.dicts c hc
  · rw [hannotations, ha.annotations]
    congr 2
    refine List.flatMap_congr fun c hc => ?_
    unfold World.annotationsOf
    rw [(hgrown c hc).1]
  · exact hattributes ▸ ha.attributes

end TypeProjection.Definition

namespace TypeProjection

open Annotation Definition

theorem Universe.names_of_read {τ : Type} {read : τ → Option String} {listed : List (String × τ)}
    {members : List MemberDeclaration} (h : listed.mapM (readMember read) = some members) :
    members.map (·.name) = keys listed := by
  have hpairs := mapM_eq_some h
  clear h
  induction hpairs with
  | nil => rfl
  | cons hm _ ih =>
    obtain ⟨reference, -, rfl⟩ := Option.map_eq_some_iff.mp hm
    rw [keys_cons, ← ih, List.map_cons]

/-- A declaration has the members of its type, under their names. -/
theorem Universe.names_of_record {τ : Type} [BEq τ] {U : Universe τ} {o : Options τ} {n : Nat}
    {t : τ} {d : TypeDeclaration τ} (h : U.declaration o n t = some d) :
    d.members.map (·.name) = keys (U.members t) := by
  obtain ⟨base, -, h⟩ := Option.bind_eq_some_iff.mp h
  obtain ⟨interfaces, -, h⟩ := Option.bind_eq_some_iff.mp h
  obtain ⟨parameters, -, h⟩ := Option.bind_eq_some_iff.mp h
  obtain ⟨members, hmembers, h⟩ := Option.bind_eq_some_iff.mp h
  cases h
  exact names_of_read hmembers

namespace Annotation.World

variable {w : World} {c : ClassRef} {n : String}

theorem mem_keys_of_lookup {α : Type} {entries : List (String × α)} {a : α}
    (h : entries.lookup n = some a) : n ∈ keys entries :=
  List.mem_map.mpr ⟨(n, a), mem_of_lookup h, rfl⟩

theorem mem_of_listsField (h : w.listsField c n = true) : n ∈ keys (w.annotationsOf c) := by
  obtain ⟨v, hv, -⟩ := (Option.any_eq_true ..).mp (Bool.and_eq_true_iff.mp h).2
  exact mem_keys_of_lookup hv

theorem mem_of_listsProperty {before : List (String × Attribute)}
    (hr : Retains before (w.attributesOf c)) (h : w.listsProperty c n = true) :
    n ∈ keys before := by
  obtain ⟨a, ha, hread⟩ := (Option.any_eq_true ..).mp (Bool.and_eq_true_iff.mp h).2
  obtain ⟨p, hp⟩ := hr.properties
  have hafter : (n, a) ∈ (w.attributesOf c).filter fun a => a.2.isReadable :=
    List.mem_filter.mpr ⟨mem_of_lookup ha, hread⟩
  rw [hp] at hafter
  exact List.mem_map.mpr ⟨(n, a), (List.mem_filter.mp hafter).1, rfl⟩

/-- A class lists its fields and then its properties, and a name twice only as both. -/
theorem keys_typeMembers {before : List (String × Attribute)} (hbefore : (keys before).Nodup)
    (hfields : (keys (w.annotationsOf c)).Nodup) (hr : Retains before (w.attributesOf c))
    {v : Value} (hv : v.class? = some c) :
    keys (w.typeMembers v) = (keys (w.annotationsOf c)).filter (w.listsField c) ++
        (keys before).filter (w.listsProperty c) ∧
      ((keys (w.typeMembers v)).Nodup ↔
        ∀ n, w.listsField c n = true → w.listsProperty c n = false) := by
  have hkeys : keys (w.typeMembers v) = (keys (w.annotationsOf c)).filter (w.listsField c) ++
      (keys before).filter (w.listsProperty c) := by
    rw [typeMembers_of_class hv, ← keys_members_fields hfields, ← keys_retained hbefore hr,
      ← keys_members_properties]
    exact List.map_append
  refine ⟨hkeys, ?_⟩
  rw [hkeys, List.nodup_append]
  constructor
  · rintro ⟨-, -, hapart⟩ n hfield
    rw [← Bool.not_eq_true]
    intro hproperty
    exact hapart n (List.mem_filter.mpr ⟨mem_of_listsField hfield, hfield⟩) n
      (List.mem_filter.mpr ⟨mem_of_listsProperty hr hproperty, hproperty⟩) rfl
  · intro hapart
    refine ⟨hfields.filter _, hbefore.filter _, ?_⟩
    rintro n hn m hm rfl
    have hfalse := hapart n (List.mem_filter.mp hn).2
    rw [(List.mem_filter.mp hm).2] at hfalse
    cases hfalse

/-- **The members of a class by its body.** Whatever a class definition binds and annotates, in
whatever order, its class lists the public names that it annotates, unless the annotation marks
something else, and then the public names that it binds, if a property that can be read stands under
them in the end; each in the order in which the names first come. A dictionary with fixed keys has
those of the dictionaries `above` first. A name comes twice exactly if it is listed as both, and
every declaration of the class has these members. -/
theorem member_names {s : Setting} {p : Spot} {d : ClassDefinition} {start made : World} {v : Value}
    (hrun : (runClass s p d).run.run start = (.ok v, made)) :
    ∃ c above, v = .cls c ∧ (made.metaclassOf c ≠ .typedDict → above = []) ∧
      (∀ b ∈ above, made.metaclassOf b = .typedDict ∨ b = genericRoot) ∧
      ∀ later : World, later.info? c = made.info? c →
        keys (later.typeMembers v) =
            (distinct (above.flatMap (fun b => keys (made.annotationsOf b)) ++ d.annotated)).filter
                (later.listsField c) ++ d.bound.filter (later.listsProperty c) ∧
          ((keys (later.typeMembers v)).Nodup ↔
            ∀ n, later.listsField c n = true → later.listsProperty c n = false) ∧
          ∀ o roots r, later.types.collect o roots = some r → ∀ e ∈ r.types, e.source = v →
            e.members.map (·.name) = keys (later.typeMembers v) := by
  obtain ⟨i, info, above, contents, rfl, hinfo, harranged, hbinds⟩ := arranged_runClass hrun
  have hmade : made.info? (.declared i) = some info := hinfo
  have hmetaclass : made.metaclassOf (.declared i) = info.metaclass :=
    congrArg (fun i => (i.map ClassInfo.metaclass).getD .plain) hinfo
  refine ⟨.declared i, above, rfl, fun hd => harranged.none (hmetaclass ▸ hd), harranged.dicts, ?_⟩
  intro later hlater
  rw [hmade] at hlater
  have hannotations : later.annotationsOf (.declared i) = info.annotations :=
    congrArg (fun i => (i.map ClassInfo.annotations).getD []) hlater
  have hattributes : later.attributesOf (.declared i) = info.attributes :=
    congrArg (fun i => (i.map ClassInfo.attributes).getD []) hlater
  have hfields : keys (later.annotationsOf (.declared i)) =
      distinct (above.flatMap (fun b => keys (made.annotationsOf b)) ++ d.annotated) := by
    rw [hannotations, harranged.annotations, hbinds.annotations]
    rfl
  have hlisted := keys_typeMembers hbinds.apart.attributes (hfields ▸ nodup_distinct _)
    (hattributes ▸ harranged.attributes) (v := .cls (.declared i)) rfl
  have hbound : keys contents.attributes = d.bound := hbinds.attributes
  rw [hfields, hbound] at hlisted
  refine ⟨hlisted.1, hlisted.2, fun o roots r hr e he hsource => ?_⟩
  have hrecord := (Universe.populated_of_collect (types_coherent later) hr).records e he
  rw [hsource] at hrecord
  exact Universe.names_of_record hrecord

/-! A class that annotates one name twice, with a property in between. -/

def accountClass : ClassDefinition :=
  .mk "Account" [] [] "" [.field "balance" "int" none, .property .plain "display" (some "str"),
    .field "owner" "str" (some "'nobody'"), .field "balance" "float" none, .method "close" false]

/-- A module of its own for the class, and the world at its beginning. -/
def accountSetting : Setting := ⟨"models", false, SearchPath.importFrom ⟨.empty [], []⟩ "models"⟩

def accountStart : World := initial.addModule ⟨"models", [], none, none, none, true⟩

def accountWorld : World := ((runClass accountSetting .outside accountClass).run.run accountStart).2

/-- Has the first class been made? -/
def madeFirst : Except Fault Value → Bool
  | .ok (.cls (.declared 0)) => true
  | _ => false

theorem eq_of_madeFirst {r : Except Fault Value × World} (h : madeFirst r.1 = true) :
    r = (.ok (.cls (.declared 0)), r.2) := by
  unfold madeFirst at h
  split at h
  · next hr => exact Prod.ext hr rfl
  · cases h

theorem runClass_account : (runClass accountSetting .outside accountClass).run.run accountStart =
    (.ok (.cls (.declared 0)), accountWorld) := by
  have hfirst : madeFirst ((runClass accountSetting .outside accountClass).run.run accountStart).1 =
      true := by decide +kernel
  exact eq_of_madeFirst hfirst

theorem member_names_account :
    keys (accountWorld.typeMembers (.cls (.declared 0))) =
        accountClass.annotated.filter (accountWorld.listsField (.declared 0)) ++
          accountClass.bound.filter (accountWorld.listsProperty (.declared 0)) ∧
      keys (accountWorld.typeMembers (.cls (.declared 0))) = ["balance", "owner", "display"] := by
  obtain ⟨c, above, hc, hnone, -, hlisted⟩ := member_names runClass_account
  cases hc
  obtain rfl : above = [] := hnone (by decide +kernel)
  have hnames := (hlisted accountWorld rfl).1
  rw [List.flatMap_nil, List.nil_append, ClassDefinition.annotated,
    distinct_of_nodup (nodup_distinct _)] at hnames
  exact ⟨hnames, by decide +kernel⟩

/-- A module whose class has a field and a property of the same name. -/
def redeclared : List ModuleItem :=
  [.cls (.mk "Account" [] [] "" [.field "x" "int" none, .property .plain "x" (some "str")])]

/-- A field and a property of one name are both listed. -/
theorem member_names_not_always_distinct :
    ¬ ∀ (definitions : List ModuleItem) (w : World),
      runAlone initial "models" ⟨false, definitions⟩ = (w, .ok ()) →
        ∀ v, (keys (w.typeMembers v)).Nodup := by
  intro hall
  have hnodup := hall redeclared _ (eq_of_isOk (by decide +kernel)) (.cls (.declared 0))
  have hkeys : keys ((runAlone initial "models" ⟨false, redeclared⟩).1.typeMembers
      (.cls (.declared 0))) = ["x", "x"] := by decide +kernel
  rw [hkeys] at hnodup
  exact absurd hnodup (by decide)

end Annotation.World

end TypeProjection
