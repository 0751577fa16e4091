import TypeProjection.Proofs.Renaming
import TypeProjection.Proofs.SoundEvaluation

/-!
# Worlds that differ by serials

A world has another one inside of it, under other serials, if everything that the one knows stands
in the other at the place that a renaming gives. What is asked about a renamed class is answered
as for the class itself, and a renamed value is written the same. The modules of the two worlds may
differ, so this holds of values that mention no modules but those of the library, and no texts but
those of modules that both have.
-/

namespace TypeProjection.Annotation

/-! What a value mentions. -/

namespace Value

/-- A value mentions a module of the library at most, or a text of one of some modules. -/
def Mentions (K : String → Prop) : Value → Prop
  | .forward _ m _ => K m
  | .module m => m ∈ libraryModules
  | _ => True

/-- All texts inside of the value belong to some modules, and all modules to the library. -/
def Homely (K : String → Prop) (v : Value) : Prop := v.Every (Mentions K)

section Shapes

variable {K : String → Prop} {v inner : Value} {xs ys notes : List Value} {c : ClassRef}
  {n s m : String} {i : Nat}

theorem homely_iff : v.Homely K ↔ v.Mentions K ∧ ∀ x ∈ v.children, x.Homely K := every_iff

theorem homely_leaf (hc : v.children = []) : v.Homely K ↔ v.Mentions K := by
  rw [homely_iff, hc]
  exact and_iff_left fun _ h => (List.not_mem_nil h).elim

theorem homely_holder (h : v.Mentions K) : v.Homely K ↔ ∀ x ∈ v.children, x.Homely K := by
  rw [homely_iff]
  exact and_iff_right h

@[simp] theorem homely_none : Value.none.Homely K := (homely_leaf rfl).mpr trivial
@[simp] theorem homely_ellipsis : Value.ellipsis.Homely K := (homely_leaf rfl).mpr trivial
@[simp] theorem homely_bool {b : Bool} : (Value.bool b).Homely K := (homely_leaf rfl).mpr trivial
@[simp] theorem homely_int {k : Int} : (Value.int k).Homely K := (homely_leaf rfl).mpr trivial
@[simp] theorem homely_float {f : Binary64} : (Value.float f).Homely K :=
  (homely_leaf rfl).mpr trivial
@[simp] theorem homely_str : (Value.str s).Homely K := (homely_leaf rfl).mpr trivial
@[simp] theorem homely_bytes {bs : List Nat} : (Value.bytes bs).Homely K :=
  (homely_leaf rfl).mpr trivial
@[simp] theorem homely_cls : (Value.cls c).Homely K := (homely_leaf rfl).mpr trivial
@[simp] theorem homely_typeVar : (Value.typeVar i).Homely K := (homely_leaf rfl).mpr trivial
@[simp] theorem homely_paramSpec : (Value.paramSpec i).Homely K := (homely_leaf rfl).mpr trivial
@[simp] theorem homely_newType : (Value.newType i).Homely K := (homely_leaf rfl).mpr trivial
@[simp] theorem homely_form : (Value.form n).Homely K := (homely_leaf rfl).mpr trivial
@[simp] theorem homely_alias : (Value.alias n).Homely K := (homely_leaf rfl).mpr trivial
@[simp] theorem homely_member : (Value.member c n).Homely K := (homely_leaf rfl).mpr trivial
@[simp] theorem homely_function : (Value.function m n).Homely K := (homely_leaf rfl).mpr trivial
@[simp] theorem homely_other : (Value.other s).Homely K := (homely_leaf rfl).mpr trivial

@[simp] theorem homely_forward {b : Bool} : (Value.forward s m b).Homely K ↔ K m :=
  homely_leaf rfl

@[simp] theorem homely_module : (Value.module m).Homely K ↔ m ∈ libraryModules :=
  homely_leaf rfl

@[simp] theorem homely_list : (Value.list xs).Homely K ↔ ∀ x ∈ xs, x.Homely K :=
  homely_holder (v := .list xs) trivial

@[simp] theorem homely_tuple : (Value.tuple xs).Homely K ↔ ∀ x ∈ xs, x.Homely K :=
  homely_holder (v := .tuple xs) trivial

@[simp] theorem homely_set : (Value.set xs).Homely K ↔ ∀ x ∈ xs, x.Homely K :=
  homely_holder (v := .set xs) trivial

@[simp] theorem homely_looseCallable :
    (Value.looseCallable xs).Homely K ↔ ∀ x ∈ xs, x.Homely K :=
  homely_holder (v := .looseCallable xs) trivial

@[simp] theorem homely_formed : (Value.formed n xs).Homely K ↔ ∀ x ∈ xs, x.Homely K :=
  homely_holder (v := .formed n xs) trivial

@[simp] theorem homely_union {b : Bool} : (Value.union b xs).Homely K ↔ ∀ x ∈ xs, x.Homely K :=
  homely_holder (v := .union b xs) trivial

@[simp] theorem homely_applied : (Value.applied n c xs).Homely K ↔ ∀ x ∈ xs, x.Homely K :=
  homely_holder (v := .applied n c xs) trivial

@[simp] theorem homely_native : (Value.native c xs).Homely K ↔ ∀ x ∈ xs, x.Homely K :=
  homely_holder (v := .native c xs) trivial

@[simp] theorem homely_dict :
    (Value.dict xs ys).Homely K ↔ (∀ x ∈ xs, x.Homely K) ∧ ∀ y ∈ ys, y.Homely K :=
  (homely_holder (v := .dict xs ys) trivial).trans List.forall_mem_append

@[simp] theorem homely_annotated : (Value.annotated inner notes).Homely K ↔
    inner.Homely K ∧ ∀ x ∈ notes, x.Homely K :=
  (homely_holder (v := .annotated inner notes) trivial).trans List.forall_mem_cons

@[simp] theorem homely_initVar : (Value.initVar inner).Homely K ↔ inner.Homely K :=
  (homely_holder (v := .initVar inner) trivial).trans List.forall_mem_singleton

@[simp] theorem homely_noneType : noneType.Homely K := homely_cls

@[simp] theorem homely_any : Value.any.Homely K := homely_cls

end Shapes

end Value

/-! What worlds store, renamed. -/

section Stored

variable (ρ : Renaming) (K : String → Prop)

/-- Entries with their values renamed. -/
def renamedNames (names : List (String × Value)) : List (String × Value) :=
  names.map fun e => (e.1, e.2.rename ρ)

/-- The getter with its result renamed. -/
def Getter.rename (g : Getter) : Getter := { g with returns := g.returns.map (Value.rename ρ) }

/-- The attribute with its values renamed. -/
def Attribute.rename : Attribute → Attribute
  | .value v => .value (v.rename ρ)
  | .property g b => .property (g.map (Getter.rename ρ)) b
  | .method b => .method b

/-- Attributes renamed under their names. -/
def renamedAttributes (attributes : List (String × Attribute)) : List (String × Attribute) :=
  attributes.map fun a => (a.1, a.2.rename ρ)

/-- The class with all that it mentions renamed. -/
def ClassInfo.rename (info : ClassInfo) : ClassInfo :=
  { info with
    bases := info.bases.map (ClassRef.rename ρ)
    writtenBases := info.writtenBases.map (Value.rename ρ)
    ancestors := info.ancestors.map (ClassRef.rename ρ)
    parameters := info.parameters.map (Value.rename ρ)
    annotations := renamedNames ρ info.annotations
    attributes := renamedAttributes ρ info.attributes }

/-- The variable with its bound and its alternatives renamed. -/
def TypeVariable.rename (v : TypeVariable) : TypeVariable :=
  { v with
    bound := v.bound.map (Value.rename ρ)
    alternatives := v.alternatives.map (Value.rename ρ) }

/-- The named type with its supertype renamed. -/
def NamedType.rename (n : NamedType) : NamedType :=
  { n with supertype := n.supertype.rename ρ }

/-- Names stand for homely values. -/
def HomelyNames (names : List (String × Value)) : Prop := ∀ e ∈ names, e.2.Homely K

/-- What stands under a name in a class is homely. -/
def Attribute.Homely : Attribute → Prop
  | .value v => v.Homely K
  | .property (some g) _ => K g.module ∧ ∀ v, g.returns = some v → v.Homely K
  | .property none _ => True
  | .method _ => True

/-- Attributes are homely under all names. -/
def HomelyAttributes (attributes : List (String × Attribute)) : Prop :=
  ∀ a ∈ attributes, a.2.Homely K

/-- All that a class mentions is homely, and the class itself. -/
structure ClassInfo.Homely (info : ClassInfo) : Prop where
  module : K info.module
  writtenBases : ∀ v ∈ info.writtenBases, v.Homely K
  parameters : ∀ v ∈ info.parameters, v.Homely K
  annotations : HomelyNames K info.annotations
  attributes : HomelyAttributes K info.attributes

/-- All that a variable mentions is homely, and the variable itself. -/
structure TypeVariable.Homely (v : TypeVariable) : Prop where
  module : K v.module
  bounds : ∀ t ∈ v.bound.toList ++ v.alternatives, t.Homely K

end Stored

/-- The second world has the first one inside of it, under other serials. What the first one
stores is homely, and the worlds go on with serials that belong together. -/
structure World.Renames (ρ : Renaming) (K : String → Prop) (w w' : World) : Prop where
  classes : ∀ i, w'.classes[ρ.cls i]? = (w.classes[i]?).map (ClassInfo.rename ρ)
  typeVars : ∀ i, w'.typeVars[ρ.typeVar i]? = (w.typeVars[i]?).map (TypeVariable.rename ρ)
  paramSpecs : ∀ i, w'.paramSpecs[ρ.paramSpec i]? = w.paramSpecs[i]?
  newTypes : ∀ i, w'.newTypes[ρ.newType i]? = (w.newTypes[i]?).map (NamedType.rename ρ)
  nextClass : ∀ n, ρ.cls (w.classes.size + n) = w'.classes.size + n
  nextTypeVar : ∀ n, ρ.typeVar (w.typeVars.size + n) = w'.typeVars.size + n
  nextParamSpec : ∀ n, ρ.paramSpec (w.paramSpecs.size + n) = w'.paramSpecs.size + n
  nextNewType : ∀ n, ρ.newType (w.newTypes.size + n) = w'.newTypes.size + n
  blank : K ""
  known : ∀ m ∈ libraryModules, K m
  absent : ∀ m ∈ libraryModules, w.loaded? m = none ∧ w'.loaded? m = none
  homelyClasses : ∀ {i : Nat} {info}, w.classes[i]? = some info → info.Homely K
  homelyVars : ∀ {i : Nat} {v}, w.typeVars[i]? = some v → v.Homely K
  homelyTypes : ∀ {i : Nat} {n}, w.newTypes[i]? = some n → n.supertype.Homely K

/-! The library. -/

section Library

variable {ρ : Renaming} {K : String → Prop} {v : Value} {name module : String}

/-- A value that no renaming changes and that mentions nothing but the library. -/
structure Value.Common (v : Value) : Prop where
  rename : ∀ ρ, v.rename ρ = v
  homely : ∀ K, v.Homely K

theorem common_cls {m n : String} : (Value.cls (.library m n)).Common := ⟨fun _ => rfl, by simp⟩
theorem common_str {s : String} : (Value.str s).Common := ⟨fun _ => rfl, by simp⟩
theorem common_none : Value.none.Common := ⟨fun _ => rfl, by simp⟩
theorem common_function {m n : String} : (Value.function m n).Common := ⟨fun _ => rfl, by simp⟩
theorem common_other {s : String} : (Value.other s).Common := ⟨fun _ => rfl, by simp⟩
theorem common_form {n : String} : (Value.form n).Common := ⟨fun _ => rfl, by simp⟩
theorem common_alias {n : String} : (Value.alias n).Common := ⟨fun _ => rfl, by simp⟩

theorem common_typeVar {i : Nat} (h : i < libraryVariables.length) : (Value.typeVar i).Common :=
  ⟨fun ρ => by rw [Value.rename_typeVar, ρ.library i h], by simp⟩

theorem common_libraryFunction (h : libraryFunction? module name = some v) : v.Common := by
  unfold libraryFunction? at h
  split at h
  · split at h
    · cases h
      exact common_function
    · cases h
  · cases h

theorem common_builtinName (h : builtinName? name = some v) : v.Common := by
  unfold builtinName? at h
  split at h
  · cases h
    exact common_cls
  split at h
  · cases h
    exact ⟨fun _ => rfl, by simp⟩
  split at h
  · cases h
    exact common_function
  split at h
  · cases h
    exact common_other
  split at h
  · cases h
    exact ⟨fun _ => rfl, by simp⟩
  split at h
  · cases h
  split at h
  · cases h
    exact common_cls
  · exact common_libraryFunction h

theorem common_typingAttribute (h : typingAttribute? name = some v) : v.Common := by
  unfold typingAttribute? at h
  split at h
  · cases h
    exact common_form
  split at h
  · cases h
    exact common_alias
  split at h
  · cases h
    exact common_cls
  split at h
  · next i hi =>
    cases h
    exact common_typeVar (List.findIdx?_eq_some_iff_getElem.mp hi).1
  split at h
  · cases h
    exact common_cls
  · exact common_libraryFunction h

theorem common_moduleAttribute (h : moduleAttribute? module name = some v) : v.Common := by
  unfold moduleAttribute? at h
  split at h
  · exact common_builtinName h
  split at h
  · exact common_typingAttribute h
  split at h
  · split at h
    · cases h
      exact common_cls
    · exact common_typingAttribute h
  split at h
  · cases h
    exact ⟨fun _ => rfl, fun _ => Value.homely_module.mpr (by decide)⟩
  split at h
  · cases h
    exact common_cls
  split at h
  · cases h
    exact common_cls
  split at h
  · cases h
    exact common_cls
  · exact common_libraryFunction h

theorem common_ownName {file : Option String} (h : World.ownName? module file name = some v) :
    v.Common := by
  unfold World.ownName? at h
  split at h
  · cases h
    exact common_str
  split at h
  · cases h
    exact common_none
  split at h
  · obtain ⟨s, -, rfl⟩ := Option.map_eq_some_iff.mp h
    exact common_str
  · cases h

theorem common_ofPoints {ps : List Text.Point} : (Value.ofPoints ps).Common := by
  unfold Value.ofPoints
  split
  · exact common_str
  · exact common_other

mutual

theorem common_ofLiteral : (x : Literal) → (Value.ofLiteral x).Common
  | .none => by rw [Value.ofLiteral]; exact common_none
  | .bool b => by rw [Value.ofLiteral]; exact ⟨fun _ => rfl, by simp⟩
  | .int n => by rw [Value.ofLiteral]; exact ⟨fun _ => rfl, by simp⟩
  | .float x => by rw [Value.ofLiteral]; exact ⟨fun _ => rfl, by simp⟩
  | .str _ => by rw [Value.ofLiteral]; exact common_ofPoints
  | .bytes bs => by rw [Value.ofLiteral]; exact ⟨fun _ => rfl, by simp⟩
  | .list items => by
    have h := common_ofLiterals items
    rw [Value.ofLiteral]
    exact ⟨fun ρ => by rw [Value.rename_list, List.map_congr_left fun x hx => (h x hx).rename ρ,
      List.map_id'], fun K => Value.homely_list.mpr fun x hx => (h x hx).homely K⟩
  | .tuple items => by
    have h := common_ofLiterals items
    rw [Value.ofLiteral]
    exact ⟨fun ρ => by rw [Value.rename_tuple, List.map_congr_left fun x hx => (h x hx).rename ρ,
      List.map_id'], fun K => Value.homely_tuple.mpr fun x hx => (h x hx).homely K⟩
  | .other d => by rw [Value.ofLiteral]; exact common_other

theorem common_ofLiterals : (items : List Literal) →
    ∀ x ∈ Value.ofLiteral.ofLiterals items, x.Common
  | [] => fun _ hx => (List.not_mem_nil hx).elim
  | x :: xs => List.forall_mem_cons.mpr ⟨common_ofLiteral x, common_ofLiterals xs⟩

end

theorem rename_of_isLibrary {c : ClassRef} (h : World.isLibrary c = true) : c.rename ρ = c := by
  cases c with
  | library m n => rfl
  | declared i => exact Bool.noConfusion h

theorem rename_library_classes {cs : List ClassRef} (h : ∀ c ∈ cs, World.isLibrary c = true) :
    cs.map (ClassRef.rename ρ) = cs := by
  rw [List.map_congr_left fun c hc => rename_of_isLibrary (h c hc), List.map_id']

theorem rename_aliasOrigin : (aliasOrigin name).rename ρ = aliasOrigin name := by
  have hvalid := (World.aliasOrigin_cases World.initial name).1
  cases hc : aliasOrigin name with
  | library m n => rfl
  | declared i =>
    rw [hc] at hvalid
    exact absurd hvalid (Nat.not_lt_zero i)

theorem rename_libraryParameters (c : ClassRef) :
    (libraryParameters c).map (Value.rename ρ) = libraryParameters c := by
  unfold libraryParameters
  split
  · rw [List.map_singleton, (common_typeVar (by decide)).rename]
  · rw [List.map_singleton, (common_typeVar (by decide)).rename]
  · rw [List.map_singleton, (common_typeVar (by decide)).rename]
  · rfl

theorem homely_libraryParameters (c : ClassRef) : ∀ v ∈ libraryParameters c, v.Homely K := by
  unfold libraryParameters
  split <;> simp

theorem rename_libraryAttributes (c : ClassRef) :
    renamedAttributes ρ (World.libraryAttributes c) = World.libraryAttributes c := by
  unfold World.libraryAttributes
  split
  · rfl
  all_goals
    simp [renamedAttributes, World.shownProperty, World.bareProperty, Attribute.rename,
      Getter.rename, builtin, Value.any, Value.noneType]

theorem homely_libraryAttributes (hK : K "builtins") (c : ClassRef) :
    HomelyAttributes K (World.libraryAttributes c) := by
  unfold World.libraryAttributes
  split
  · intro a ha
    obtain ⟨n, -, rfl⟩ := List.mem_map.mp ha
    exact ⟨hK, nofun⟩
  all_goals
    simp_all [HomelyAttributes, Attribute.Homely, World.shownProperty, World.bareProperty]

end Library

namespace World

/-! Orders of attribute lookup. -/

section Orders

variable {ρ : Renaming}

theorem nextInOrder_rename (lists : List (List ClassRef)) :
    nextInOrder (lists.map (List.map (ClassRef.rename ρ))) =
      (nextInOrder lists).map (ClassRef.rename ρ) := by
  have hheads : (lists.map (List.map (ClassRef.rename ρ))).filterMap List.head? =
      (lists.filterMap List.head?).map (ClassRef.rename ρ) := by
    rw [List.filterMap_map, List.map_filterMap]
    exact List.filterMap_congr fun l _ => by simp
  unfold nextInOrder
  rw [hheads, List.find?_map]
  congr 2
  funext c
  rw [Function.comp_apply, List.all_map]
  refine Value.all_congr_mem fun l _ => ?_
  rw [Function.comp_apply, ← List.map_tail, contains_rename]

theorem mergeOrders_rename (fuel : Nat) (lists : List (List ClassRef)) :
    mergeOrders fuel (lists.map (List.map (ClassRef.rename ρ))) =
      (mergeOrders fuel lists).map (List.map (ClassRef.rename ρ)) := by
  induction fuel generalizing lists with
  | zero => rfl
  | succ fuel ih =>
    have hpending : (lists.map (List.map (ClassRef.rename ρ))).filter (fun l => !l.isEmpty) =
        (lists.filter fun l => !l.isEmpty).map (List.map (ClassRef.rename ρ)) := by
      rw [List.filter_map]
      congr 1
      exact List.filter_congr fun l _ => by simp
    unfold mergeOrders
    simp only [hpending, List.isEmpty_map, nextInOrder_rename]
    split
    · rfl
    · cases nextInOrder (lists.filter fun l => !l.isEmpty) with
      | none => rfl
      | some c =>
        have hrest : ((lists.filter fun l => !l.isEmpty).map (List.map (ClassRef.rename ρ))).map
            (fun l => if l.head? == some (c.rename ρ) then l.tail else l) =
            ((lists.filter fun l => !l.isEmpty).map
              fun l => if l.head? == some c then l.tail else l).map
                (List.map (ClassRef.rename ρ)) := by
          rw [List.map_map, List.map_map]
          refine List.map_congr_left fun l _ => ?_
          have hhead : ((l.map (ClassRef.rename ρ)).head? == some (c.rename ρ)) =
              (l.head? == some c) := by
            cases l <;> simp
          rw [Function.comp_apply, Function.comp_apply, hhead]
          split <;> simp
        simp only [Option.map_some, hrest, ih, Option.map_map]
        congr 1

theorem orderOf_rename (bases : List ClassRef) (orders : List (List ClassRef)) :
    orderOf? (bases.map (ClassRef.rename ρ)) (orders.map (List.map (ClassRef.rename ρ))) =
      (orderOf? bases orders).map (List.map (ClassRef.rename ρ)) := by
  have hlists : orders.map (List.map (ClassRef.rename ρ)) ++ [bases.map (ClassRef.rename ρ)] =
      (orders ++ [bases]).map (List.map (ClassRef.rename ρ)) := by
    rw [List.map_append, List.map_singleton]
  unfold orderOf?
  simp only [hlists, mergeOrders_rename, List.foldl_map, List.length_map]

end Orders

/-! Questions about classes. -/

section Classes

variable {ρ : Renaming} {K : String → Prop} {w w' : World} {c d : ClassRef} {v : Value}

namespace Renames

variable (h : w.Renames ρ K w')

include h

theorem info? : w'.info? (c.rename ρ) = (w.info? c).map (ClassInfo.rename ρ) := by
  cases c with
  | library m n => rfl
  | declared i => exact h.classes i

theorem moduleOf : w'.moduleOf (c.rename ρ) = w.moduleOf c := by
  cases c with
  | library m n => rfl
  | declared i =>
    simp only [ClassRef.rename_declared, World.moduleOf, h.classes, Option.map_map]
    rfl

theorem nameOf : w'.nameOf (c.rename ρ) = w.nameOf c := by
  cases c with
  | library m n => rfl
  | declared i =>
    simp only [ClassRef.rename_declared, World.nameOf, h.classes, Option.map_map]
    rfl

theorem pathOf : w'.pathOf (c.rename ρ) = w.pathOf c := by
  cases c with
  | library m n => rfl
  | declared i =>
    simp only [ClassRef.rename_declared, World.pathOf, h.classes, Option.map_map]
    rfl

theorem qualified : w'.qualified (c.rename ρ) = w.qualified c := by
  unfold World.qualified
  rw [h.moduleOf, h.pathOf]

theorem ancestorsOf : w'.ancestorsOf (c.rename ρ) = (w.ancestorsOf c).map (ClassRef.rename ρ) := by
  cases c with
  | library m n =>
    exact (rename_library_classes fun d hd =>
      isLibrary_of_mem_libraryAncestors (c := .library m n) rfl hd).symm
  | declared i =>
    simp only [ClassRef.rename_declared, World.ancestorsOf, h.classes]
    cases w.classes[i]? with
    | none => rfl
    | some info => rfl

theorem derives : w'.derives (c.rename ρ) (d.rename ρ) = w.derives c d := by
  unfold World.derives
  rw [h.ancestorsOf, contains_rename]

theorem derives_library {m n : String} :
    w'.derives (c.rename ρ) (.library m n) = w.derives c (.library m n) :=
  h.derives (d := .library m n)

theorem metaclassOf : w'.metaclassOf (c.rename ρ) = w.metaclassOf c := by
  cases c with
  | library m n => rfl
  | declared i =>
    simp only [ClassRef.rename_declared, World.metaclassOf, h.classes, Option.map_map]
    rfl

theorem isEnumeration : w'.isEnumeration (c.rename ρ) = w.isEnumeration c := h.derives_library

theorem hasProtocolMark : w'.hasProtocolMark (c.rename ρ) = w.hasProtocolMark c := by
  cases c with
  | library m n => rfl
  | declared i =>
    simp only [ClassRef.rename_declared, World.hasProtocolMark, h.classes, Option.map_map]
    rfl

theorem isProtocol : w'.isProtocol (c.rename ρ) = w.isProtocol c := by
  have hne : ∀ {m n : String}, (c.rename ρ != .library m n) = (c != .library m n) := by
    intro m n
    rw [bne, bne, ClassRef.rename_beq_library]
  unfold World.isProtocol
  rw [h.hasProtocolMark, protocolRoot, laterProtocolRoot, hne, hne]

theorem abstractsOf : w'.abstractsOf (c.rename ρ) = w.abstractsOf c := by
  cases c with
  | library m n => rfl
  | declared i =>
    simp only [ClassRef.rename_declared, World.abstractsOf, h.classes, Option.map_map]
    rfl

theorem parametersOf :
    w'.parametersOf (c.rename ρ) = (w.parametersOf c).map (Value.rename ρ) := by
  cases c with
  | library m n => exact (rename_libraryParameters _).symm
  | declared i =>
    simp only [ClassRef.rename_declared, World.parametersOf, h.classes]
    cases w.classes[i]? with
    | none => rfl
    | some info => rfl

theorem homely_parametersOf : ∀ v ∈ w.parametersOf c, v.Homely K := by
  cases c with
  | library m n => exact homely_libraryParameters _
  | declared i =>
    dsimp only [World.parametersOf]
    cases hi : w.classes[i]? with
    | none => exact fun _ hv => (List.not_mem_nil hv).elim
    | some info => exact (h.homelyClasses hi).parameters

theorem subscriptionOf : w'.subscriptionOf (c.rename ρ) = w.subscriptionOf c := by
  unfold World.subscriptionOf
  rw [h.ancestorsOf, List.findSome?_map]
  congr 1
  funext d
  cases d with
  | library m n => rfl
  | declared i =>
    simp only [Function.comp_apply, ClassRef.rename_declared, h.classes, Option.bind_map]
    rfl

theorem attributesOf :
    w'.attributesOf (c.rename ρ) = renamedAttributes ρ (w.attributesOf c) := by
  cases c with
  | library m n => exact (rename_libraryAttributes _).symm
  | declared i =>
    simp only [ClassRef.rename_declared, World.attributesOf, h.classes]
    cases w.classes[i]? with
    | none => rfl
    | some info => rfl

theorem homely_attributesOf : HomelyAttributes K (w.attributesOf c) := by
  cases c with
  | library m n => exact homely_libraryAttributes (h.known _ (by decide)) _
  | declared i =>
    dsimp only [World.attributesOf]
    cases hi : w.classes[i]? with
    | none => exact fun _ ha => (List.not_mem_nil ha).elim
    | some info => exact (h.homelyClasses hi).attributes

theorem annotationsOf :
    w'.annotationsOf (c.rename ρ) = renamedNames ρ (w.annotationsOf c) := by
  unfold World.annotationsOf
  rw [h.info?]
  cases w.info? c with
  | none => rfl
  | some info => rfl

theorem homely_annotationsOf : HomelyNames K (w.annotationsOf c) := by
  unfold World.annotationsOf
  cases hi : w.info? c with
  | none => exact fun _ ha => (List.not_mem_nil ha).elim
  | some info =>
    cases c with
    | library m n => cases hi
    | declared i => exact (h.homelyClasses hi).annotations

theorem membersOf : w'.membersOf (c.rename ρ) = w.membersOf c := by
  cases c with
  | library m n => unfold World.membersOf; rfl
  | declared i =>
    simp only [ClassRef.rename_declared, World.membersOf, World.info?, h.classes, Option.map_map]
    rfl

theorem writtenBasesOf :
    w'.writtenBasesOf (c.rename ρ) = (w.writtenBasesOf c).map (Value.rename ρ) := by
  cases c with
  | library m n =>
    rw [ClassRef.rename_library]
    unfold World.writtenBasesOf
    split
    · rfl
    · rfl
    · rw [List.map_map]
      unfold World.basesOf
      refine List.map_congr_left fun d hd => ?_
      rw [Function.comp_apply, Value.rename_cls, rename_of_isLibrary (isLibrary_of_base hd)]
    · rename_i heq
      cases heq
  | declared i =>
    simp only [ClassRef.rename_declared, World.writtenBasesOf, h.classes]
    cases w.classes[i]? with
    | none => rfl
    | some info => rfl

theorem homely_writtenBasesOf : ∀ v ∈ w.writtenBasesOf c, v.Homely K := by
  unfold World.writtenBasesOf
  split
  · simp
  · simp
  · intro v hv
    obtain ⟨d, -, rfl⟩ := List.mem_map.mp hv
    exact Value.homely_cls
  · next i =>
    cases hi : w.classes[i]? with
    | none => exact fun _ hv => (List.not_mem_nil hv).elim
    | some info => exact (h.homelyClasses hi).writtenBases

theorem attributeValue {name : String} {a : Attribute} :
    w'.attributeValue (c.rename ρ) name (a.rename ρ) = (w.attributeValue c name a).rename ρ := by
  cases a with
  | value v => rfl
  | property g b => rfl
  | method b => simp only [Attribute.rename, World.attributeValue, h.moduleOf, h.pathOf,
      Value.rename_function]

theorem classNames : w'.classNames (c.rename ρ) = renamedNames ρ (w.classNames c) := by
  unfold World.classNames
  rw [h.attributesOf, renamedAttributes, renamedNames, List.map_map, List.map_map]
  exact List.map_congr_left fun a _ => by simp [h.attributeValue]

theorem homely_classNames : HomelyNames K (w.classNames c) := by
  intro e he
  obtain ⟨a, ha, rfl⟩ := List.mem_map.mp he
  have hhomely := h.homely_attributesOf a ha
  obtain ⟨n, a⟩ := a
  cases a with
  | value v => exact hhomely
  | property g b => exact Value.homely_other
  | method b => exact Value.homely_function

theorem displayClass : w'.displayClass (c.rename ρ) = w.displayClass c := by
  unfold World.displayClass
  rw [ClassRef.rename_beq_library, h.metaclassOf, flagRoot, h.derives_library, h.nameOf,
    h.qualified]

theorem displayVariable {i : Nat} : w'.displayVariable (ρ.typeVar i) = w.displayVariable i := by
  unfold World.displayVariable
  rw [h.typeVars]
  cases w.typeVars[i]? with
  | none => rfl
  | some v => rfl

end Renames

end Classes

/-! How values are written. -/

section Display

variable {ρ : Renaming} {K : String → Prop} {w w' : World} {v : Value}

@[simp] theorem isParameterList_rename (v : Value) :
    (v.rename ρ).isParameterList = v.isParameterList := by
  cases v with
  | formed n xs =>
    rw [Value.rename_formed]
    unfold Value.isParameterList
    by_cases hn : n = "Concatenate"
    · subst hn
      rfl
    · simp [hn]
  | _ => simp [Value.isParameterList]

@[simp] theorem isFlatCallable_rename (c : ClassRef) (xs : List Value) :
    isFlatCallable (c.rename ρ) (xs.map (Value.rename ρ)) = isFlatCallable c xs := by
  unfold isFlatCallable
  rw [callableRoot, ClassRef.rename_beq_library, List.length_map, List.head?_map, Option.map_map]
  simp only [Function.comp_def, isParameterList_rename]

theorem displays_rename {slot : Slot} {xs : List Value}
    (h : ∀ x ∈ xs, ∀ slot, w'.display slot (x.rename ρ) = w.display slot x) :
    display.displays w' slot (xs.map (Value.rename ρ)) = display.displays w slot xs := by
  induction xs with
  | nil => rfl
  | cons x xs ih =>
    obtain ⟨hx, hxs⟩ := List.forall_mem_cons.mp h
    rw [List.map_cons, display.displays, display.displays, hx, ih hxs]

theorem displayUnion_rename (members : List Value) (written : List String) :
    displayUnion (members.map (Value.rename ρ)) written = displayUnion members written := by
  have hnone : ∀ {x : Value}, x.rename ρ = .cls (.library "builtins" "NoneType") →
      x = .cls (.library "builtins" "NoneType") := by
    intro x hx
    cases x with
    | cls c => rw [ClassRef.rename_eq_library.mp (Value.cls.inj hx)]
    | _ => cases hx
  unfold displayUnion
  split
  · next hmap =>
    obtain ⟨a, _, rfl, ha, hrest⟩ := List.map_eq_cons_iff.mp hmap
    obtain ⟨b, _, rfl, -, hnil⟩ := List.map_eq_cons_iff.mp hrest
    rw [hnone ha, List.map_eq_nil_iff.mp hnil]
    rfl
  · next hfirst hmap =>
    obtain ⟨a, _, rfl, rfl, hrest⟩ := List.map_eq_cons_iff.mp hmap
    obtain ⟨b, _, rfl, hb, hnil⟩ := List.map_eq_cons_iff.mp hrest
    rw [hnone hb, List.map_eq_nil_iff.mp hnil]
    split
    · next hmembers _ =>
      rw [(List.cons.inj hmembers).1] at hfirst
      exact (hfirst rfl).elim
    · next hwritten =>
      cases hwritten
      rfl
    · next hsecond => exact (hsecond _ _ _ rfl rfl).elim
  · next hfirst hsecond =>
    split
    · exact (hfirst _ _ _ rfl rfl).elim
    · exact (hsecond _ _ _ rfl rfl).elim
    · rfl

/-- A renamed value is written as the value is. -/
theorem Renames.display (h : w.Renames ρ K w') (hv : v.Homely K) (slot : Slot) :
    w'.display slot (v.rename ρ) = w.display slot v := by
  induction hv generalizing slot with
  | @intro v hv hchildren ih =>
    have hparts : ∀ (xs : List Value) (slot : Slot), (∀ x ∈ xs, x ∈ v.children) →
        World.display.displays w' slot (xs.map (Value.rename ρ)) =
          World.display.displays w slot xs :=
      fun _ _ hxs => displays_rename fun x hx slot => ih x (hxs x hx) slot
    cases v with
    | cls c =>
      rw [Value.rename_cls]
      unfold World.display
      simp only [h.displayClass, h.qualified, builtin, ClassRef.rename_beq_library]
      cases slot <;> rfl
    | typeVar i =>
      rw [Value.rename_typeVar]
      unfold World.display
      exact h.displayVariable
    | paramSpec i =>
      rw [Value.rename_paramSpec]
      unfold World.display
      rw [h.paramSpecs]
    | newType i =>
      rw [Value.rename_newType]
      unfold World.display
      rw [h.newTypes]
      cases w.newTypes[i]? with
      | none => rfl
      | some n => rfl
    | list xs =>
      rw [Value.rename_list]
      unfold World.display
      simp only [hparts xs _ fun _ hx => hx]
    | tuple xs =>
      rw [Value.rename_tuple]
      unfold World.display
      simp only [hparts xs _ fun _ hx => hx]
    | set xs =>
      rw [Value.rename_set]
      unfold World.display
      simp only [hparts xs _ fun _ hx => hx, List.isEmpty_map]
    | formed n xs =>
      rw [Value.rename_formed]
      unfold World.display
      by_cases hn : n = "Unpack"
      · simp only [hn, hparts xs _ fun _ hx => hx]
      · simp only [hparts xs _ fun _ hx => hx]
    | union piped xs =>
      rw [Value.rename_union]
      unfold World.display
      cases piped <;> simp only [hparts xs _ fun _ hx => hx, displayUnion_rename]
    | looseCallable xs =>
      have hq : w'.qualified callableRoot = w.qualified callableRoot :=
        h.qualified (c := callableRoot)
      rw [Value.rename_looseCallable]
      unfold World.display
      simp only [hparts xs _ fun _ hx => hx, hq]
    | dict ks vs =>
      rw [Value.rename_dict]
      unfold World.display
      simp only [hparts ks _ fun _ hx => List.mem_append_left _ hx,
        hparts vs _ fun _ hx => List.mem_append_right _ hx]
    | applied n c xs =>
      rw [Value.rename_applied]
      unfold World.display
      by_cases hn : n = ""
      · simp only [hn, hparts xs _ fun _ hx => hx, h.qualified]
      · simp only [hparts xs _ fun _ hx => hx, isFlatCallable_rename]
    | native c xs =>
      rw [Value.rename_native]
      unfold World.display
      simp only [hparts xs _ fun _ hx => hx, h.qualified, isFlatCallable_rename]
    | annotated inner notes =>
      rw [Value.rename_annotated]
      unfold World.display
      simp only [ih inner (List.mem_cons_self ..),
        hparts notes _ fun _ hx => List.mem_cons_of_mem _ hx]
    | initVar inner =>
      have hinner := ih inner (List.mem_singleton_self _)
      rw [Value.rename_initVar]
      unfold World.display
      cases inner with
      | cls c => simp only [Value.rename_cls, h.nameOf]
      | _ => simp_all
    | member c n =>
      rw [Value.rename_member]
      unfold World.display
      simp only [h.membersOf, h.nameOf]
    | module m =>
      obtain ⟨habsent, habsent'⟩ := h.absent m hv
      rw [Value.rename_module]
      unfold World.display
      rw [habsent, habsent']
    | _ => rfl

theorem Renames.shown (h : w.Renames ρ K w') (hv : v.Homely K) :
    w'.shown (v.rename ρ) = w.shown v :=
  h.display hv .alone

theorem Renames.className (h : w.Renames ρ K w') (v : Value) :
    (v.rename ρ).className w' = v.className w := by
  cases v with
  | cls c => simp only [Value.rename_cls, Value.className, h.metaclassOf]
  | member c n => exact h.nameOf
  | form n =>
    by_cases hn : n = "Literal"
    · subst hn
      rfl
    · simp [Value.className]
  | «alias» n =>
    by_cases hn : n = "Callable"
    · subst hn
      rfl
    · by_cases hn' : n = "Tuple"
      · subst hn'
        rfl
      · simp [Value.className]
  | applied n c xs =>
    by_cases hn : n = "Callable"
    · subst hn
      simp [Value.className]
    · simp [Value.className]
  | formed n xs =>
    by_cases hn : n = "Literal"
    · subst hn
      simp [Value.className]
    · simp [Value.className]
  | union piped xs => cases piped <;> simp [Value.className]
  | _ => simp [Value.className]

end Display

end World

end TypeProjection.Annotation
