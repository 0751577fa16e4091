import Mathlib.Data.Fintype.Card
import TypeProjection.Proofs.ArgumentCounts
import TypeProjection.Proofs.MirroredUniverses
import TypeProjection.Proofs.RenamedTexts

/-!
# Types under other serials

A renamed type is declared as the type is: it has the same names and kinds, and what it refers to,
renamed. Only the two bounds of a universe depend on how much the world holds besides.
-/

namespace TypeProjection.Annotation

/-! Shapes of types. -/

namespace Value

variable {ρ : Renaming} {K : String → Prop} {v : Value}

theorem peel_rename (v : Value) : (v.rename ρ).peel = v.peel.rename ρ := by
  fun_induction peel v with
  | case1 => rfl
  | case2 => rfl
  | case3 => rfl
  | case4 inner notes ih => rwa [rename_annotated, peel]
  | case5 inner ih => rwa [rename_formed, List.map_singleton, peel]
  | case6 v hnone hstr hforward hannotated hfinal =>
    cases v with
    | formed n xs =>
      rw [rename_formed]
      refine peel.eq_6 _ nofun nofun nofun nofun fun x hx => ?_
      obtain ⟨rfl, hxs⟩ := formed.inj hx
      obtain ⟨y, rfl, -⟩ := List.map_eq_singleton_iff.mp hxs
      exact hfinal y rfl
    | none => exact (hnone rfl).elim
    | str s => exact (hstr s rfl).elim
    | forward s m b => exact (hforward s m b rfl).elim
    | annotated inner notes => exact (hannotated inner notes rfl).elim
    | _ => simp [peel]

theorem homely_peel (hv : v.Homely K) : v.peel.Homely K := by
  fun_induction peel v with
  | case1 => exact homely_noneType
  | case2 => exact homely_any
  | case3 => exact homely_any
  | case4 inner notes ih => exact ih (homely_annotated.mp hv).1
  | case5 inner ih => exact ih (homely_formed.mp hv inner (List.mem_singleton_self _))
  | case6 => exact hv

/-- What was given arguments, renamed. -/
def Origin.rename (ρ : Renaming) : Origin → Origin
  | .cls c => .cls (c.rename ρ)
  | .form name => .form name

theorem origin?_rename (v : Value) : (v.rename ρ).origin? = v.origin?.map (Origin.rename ρ) := by
  cases v with
  | cls c =>
    simp only [rename_cls, origin?, World.genericRoot, ClassRef.rename_beq_library]
    split
    · simp [*, Origin.rename]
    · simp [*]
  | «alias» n => simp only [rename_alias, origin?, Option.map_some, Origin.rename,
      rename_aliasOrigin]
  | union piped xs => cases piped <;> simp [origin?, Origin.rename, unionClass]
  | looseCallable xs => simp [origin?, Origin.rename, callableRoot]
  | _ => simp [origin?, Origin.rename]

theorem grouped_rename (xs : List Value) :
    arguments.grouped (xs.map (rename ρ)) = (arguments.grouped xs).map (rename ρ) := by
  unfold arguments.grouped
  rw [List.map_cons, rename_list, List.map_dropLast, List.getLast?_map]
  cases xs.getLast? <;> rfl

theorem arguments_rename (v : Value) : (v.rename ρ).arguments = v.arguments.map (rename ρ) := by
  have hgroup : ∀ (c : ClassRef) (xs : List Value),
      (if isFlatCallable (c.rename ρ) (xs.map (rename ρ))
        then arguments.grouped (xs.map (rename ρ)) else xs.map (rename ρ)) =
      (if isFlatCallable c xs then arguments.grouped xs else xs).map (rename ρ) := by
    intro c xs
    rw [World.isFlatCallable_rename, grouped_rename]
    split <;> rfl
  cases v with
  | applied n c xs =>
    rw [rename_applied]
    exact hgroup c xs
  | native c xs =>
    rw [rename_native]
    exact hgroup c xs
  | looseCallable xs =>
    rw [rename_looseCallable]
    exact hgroup callableRoot xs
  | _ => simp [arguments]

theorem homely_grouped {xs : List Value} (hxs : AllHomely K xs) :
    AllHomely K (arguments.grouped xs) := by
  refine allHomely_cons.mpr ⟨homely_list.mpr fun x hx => hxs x (List.dropLast_subset _ hx), ?_⟩
  exact fun x hx => hxs x (List.mem_of_getLast? (Option.mem_toList.mp hx))

theorem homely_arguments (hv : v.Homely K) : AllHomely K v.arguments := by
  have hgroup : ∀ (c : ClassRef) {xs : List Value}, AllHomely K xs →
      AllHomely K (if isFlatCallable c xs then arguments.grouped xs else xs) := by
    intro c xs hxs
    split
    · exact homely_grouped hxs
    · exact hxs
  cases v with
  | applied n c xs => exact hgroup c (homely_applied.mp hv)
  | native c xs => exact hgroup c (homely_native.mp hv)
  | looseCallable xs => exact hgroup callableRoot (homely_looseCallable.mp hv)
  | formed n xs => exact homely_formed.mp hv
  | union piped xs => exact homely_union.mp hv
  | _ => exact allHomely_nil

theorem class?_rename (v : Value) : (v.rename ρ).class? = v.class?.map (ClassRef.rename ρ) := by
  unfold class?
  rw [origin?_rename]
  cases v.origin? with
  | some o => cases o <;> rfl
  | none => cases v <;> simp

theorem isConstructed_rename (v : Value) : (v.rename ρ).isConstructed = v.isConstructed := by
  unfold isConstructed
  rw [origin?_rename, arguments_rename, List.isEmpty_map]
  cases v.origin? with
  | some o => cases o <;> rfl
  | none => rfl

end Value

namespace World

open Value (AllHomely allHomely_cons allHomely_nil)

variable {ρ : Renaming} {K : String → Prop} {w w' : World} {v v' : Value} {xs xs' : List Value}

theorem definitionOf_rename (v : Value) : definitionOf (v.rename ρ) = (definitionOf v).rename ρ := by
  unfold definitionOf
  rw [Value.isConstructed_rename, Value.class?_rename]
  split
  · cases v.class? <;> rfl
  · rfl

theorem homely_definitionOf (hv : v.Homely K) : (definitionOf v).Homely K := by
  unfold definitionOf
  split
  · cases v.class? with
    | none => exact hv
    | some c => exact Value.homely_cls
  · exact hv

theorem isMentioned_rename (v : Value) : isMentioned (v.rename ρ) = isMentioned v := by
  have hsilent : ∀ c : ClassRef, silentBases.any (c.rename ρ).equals = silentBases.any c.equals := by
    intro c
    have hone : ∀ d ∈ silentBases, (c.rename ρ).equals d = c.equals d := by
      simp only [silentBases, ClassRef.root, genericRoot, protocolRoot, laterProtocolRoot,
        List.forall_mem_cons, ClassRef.equals_rename_library, true_and]
      exact fun _ h => (List.not_mem_nil h).elim
    exact Value.any_congr_mem hone
  unfold isMentioned
  rw [Value.origin?_rename]
  cases v.origin? with
  | some o =>
    cases o with
    | cls c => simp only [Option.map_some, Value.Origin.rename, hsilent]
    | form n => simp [Value.Origin.rename]
  | none =>
    cases v with
    | cls c => simp only [Value.rename_cls, Option.map_none, hsilent]
    | _ => simp

theorem valid_class? (hv : w.Sound v) {c : ClassRef} (h : v.class? = some c) : w.Valid c := by
  cases v with
  | cls d =>
    rw [Value.class?_cls] at h
    exact Option.some_inj.mp h ▸ sound_cls.mp hv
  | applied n d xs =>
    cases h
    exact (sound_applied.mp hv).1.1
  | native d xs =>
    cases h
    exact (sound_native.mp hv).1.1
  | looseCallable xs =>
    cases h
    exact valid_library
  | «alias» n =>
    cases h
    exact (aliasOrigin_cases w n).1
  | union piped xs =>
    cases piped
    · cases h
    · cases h
      exact valid_library
  | _ => cases h

theorem sound_definitionOf (hv : w.Sound v) : w.Sound (definitionOf v) := by
  unfold definitionOf
  split
  · cases hc : v.class? with
    | none => exact hv
    | some c => exact sound_cls.mpr (valid_class? hv hc)
  · exact hv

theorem sound_declaredParameters (hw : w.Closed) (v : Value) :
    ∀ x ∈ w.declaredParameters v, w.Sound x := by
  unfold declaredParameters
  split
  · split
    · exact fun _ h => (List.not_mem_nil h).elim
    · exact sound_parametersOf hw _
  · exact fun _ h => (List.not_mem_nil h).elim

theorem marksClassVar_rename (v : Value) : marksClassVar (v.rename ρ) = marksClassVar v := by
  unfold marksClassVar
  rw [annotationText?_rename]
  cases annotationText? v with
  | some s => rfl
  | none =>
    cases v with
    | formed n xs =>
      by_cases hn : n = "ClassVar"
      · simp [hn]
      · simp [hn]
    | _ => simp

theorem marksInitVar_rename (v : Value) : marksInitVar (v.rename ρ) = marksInitVar v := by
  unfold marksInitVar
  rw [annotationText?_rename]
  cases annotationText? v with
  | some s => rfl
  | none =>
    cases v with
    | cls c =>
      cases c with
      | library m n => rfl
      | declared i => rfl
    | _ => simp

theorem marksField_rename (v : Value) : marksField (v.rename ρ) = marksField v := by
  rw [marksField, marksField, marksClassVar_rename, marksInitVar_rename]

theorem isOpenTuple_rename (xs : List Value) :
    isOpenTuple (xs.map (Value.rename ρ)) = isOpenTuple xs := by
  rcases xs with _ | ⟨x, _ | ⟨y, _ | ⟨z, rest⟩⟩⟩
  · rfl
  · rfl
  · cases y <;> simp [isOpenTuple]
  · simp [isOpenTuple]

/-! Descriptions. -/

/-- More fuel than there are older named types changes nothing. -/
theorem unwrapFrom_of_le (hw : w.Closed) {n k : Nat} (hk : n ≤ k) :
    ∀ {v : Value}, (∀ i, v.peel = .newType i → i < n) → w.unwrapFrom k v = w.unwrapFrom n v := by
  induction n generalizing k with
  | zero =>
    intro v hv
    cases k with
    | zero => rfl
    | succ k =>
      rw [unwrapFrom, unwrapFrom]
      split
      · next i hi => exact absurd (hv i hi) (Nat.not_lt_zero i)
      · rfl
  | succ n ih =>
    intro v hv
    obtain ⟨k, rfl⟩ : ∃ k', k = k' + 1 := ⟨k - 1, by omega⟩
    rw [unwrapFrom, unwrapFrom]
    split
    · next i hi =>
      split
      · next t ht =>
        have hi := hv i hi
        refine ih (Nat.le_of_succ_le_succ hk) fun j hj => ?_
        exact Nat.lt_of_lt_of_le (hw.older ht hj) (Nat.lt_succ_iff.mp hi)
      · rfl
    · rfl

theorem describe_eq (hw : w.Closed) {n : Nat} (hn : w.newTypes.size < n) (hv : w.Sound v) :
    w.describe v = w.unwrapFrom n v := by
  refine (unwrapFrom_of_le hw (Nat.succ_le_of_lt hn) fun i hi => ?_).symm
  have hpeel := sound_peel hv
  rw [hi, sound_newType] at hpeel
  exact Nat.lt_succ_of_lt hpeel

theorem Renames.unwrapFrom (h : w.Renames ρ K w') (n : Nat) (v : Value) :
    w'.unwrapFrom n (v.rename ρ) = (w.unwrapFrom n v).rename ρ := by
  induction n generalizing v with
  | zero => exact Value.peel_rename v
  | succ n ih =>
    rw [World.unwrapFrom, World.unwrapFrom, Value.peel_rename]
    cases hv : v.peel with
    | newType i =>
      rw [Value.rename_newType]
      dsimp only
      rw [h.newTypes]
      cases w.newTypes[i]? with
      | none => rfl
      | some t => exact ih t.supertype
    | _ => simp

theorem Renames.homely_describe (h : w.Renames ρ K w') (hv : v.Homely K) :
    (w.describe v).Homely K := by
  have hfrom : ∀ n, ∀ v : Value, v.Homely K → (w.unwrapFrom n v).Homely K := by
    intro n
    induction n with
    | zero => exact fun v hv => Value.homely_peel hv
    | succ n ih =>
      intro v hv
      unfold World.unwrapFrom
      split
      · split
        · next t ht => exact ih _ (h.homelyTypes ht)
        · exact Value.homely_newType
      · exact Value.homely_peel hv
  exact hfrom _ v hv

/-- A world has room for what it has inside of it. -/
theorem Renames.newTypes_size_le (h : w.Renames ρ K w') : w.newTypes.size ≤ w'.newTypes.size := by
  have hlt : ∀ i : Fin w.newTypes.size, ρ.newType i < w'.newTypes.size := by
    intro i
    have hi := h.newTypes i
    rw [Array.getElem?_eq_getElem i.isLt] at hi
    exact (Array.getElem?_eq_some_iff.mp hi).1
  have hcard := Fintype.card_le_of_injective
    (fun i : Fin w.newTypes.size => (⟨ρ.newType i, hlt i⟩ : Fin w'.newTypes.size))
    fun i j hij => Fin.ext (ρ.newType_injective (Fin.mk.inj hij))
  simpa using hcard

theorem Renames.describe (h : w.Renames ρ K w') (hw : w.Closed) (hv : w.Sound v) :
    w'.describe (v.rename ρ) = (w.describe v).rename ρ := by
  rw [World.describe, h.unwrapFrom, describe_eq hw (Nat.lt_succ_of_le h.newTypes_size_le) hv]

/-! Relatives: values as they stand in another world. -/

/-- The second value is a value of the world as it stands in another one. -/
structure Kin (ρ : Renaming) (K : String → Prop) (w : World) (v v' : Value) : Prop where
  sound : w.Sound v
  homely : v.Homely K
  image : v' = v.rename ρ

section Kin

theorem kin_image (hs : w.Sound v) (hh : v.Homely K) : w.Kin ρ K v (v.rename ρ) := ⟨hs, hh, rfl⟩

theorem kin_images (hs : ∀ x ∈ xs, w.Sound x) (hh : AllHomely K xs) :
    List.Forall₂ (w.Kin ρ K) xs (xs.map (Value.rename ρ)) := by
  induction xs with
  | nil => exact .nil
  | cons x xs ih =>
    obtain ⟨hx, hxs⟩ := List.forall_mem_cons.mp hs
    obtain ⟨hhx, hhxs⟩ := allHomely_cons.mp hh
    exact .cons (kin_image hx hhx) (ih hxs hhxs)

/-- Relatives are equal where the values are. -/
theorem sameKeys_kin : SameKeys (w.Kin ρ K) := by
  intro t u t' u' ht hu
  rw [ht.image, hu.image, Value.beq_rename]

variable (h : w.Renames ρ K w') (hw : w.Closed)

include h hw

theorem Kin.describe (hv : w.Kin ρ K v v') : w.Kin ρ K (w.describe v) (w'.describe v') :=
  ⟨sound_describe hw hv.sound, h.homely_describe hv.homely, by
    rw [hv.image, h.describe hw hv.sound]⟩

theorem kin_described (hxs : List.Forall₂ (w.Kin ρ K) xs xs') :
    List.Forall₂ (w.Kin ρ K) (xs.map w.describe) (xs'.map w'.describe) :=
  map_of_forall₂ hxs fun _ _ hv => hv.describe h hw

end Kin

/-! Names and kinds. -/

section Names

variable (h : w.Renames ρ K w')

include h

theorem Renames.displayName (hv : v.Homely K) : w'.displayName (v.rename ρ) = w.displayName v := by
  have hshown := h.shown hv
  cases v with
  | cls c =>
    rw [Value.rename_cls] at hshown ⊢
    rw [World.displayName, World.displayName, genericRoot, ClassRef.rename_beq_library, hshown,
      h.qualified]
  | _ =>
    unfold World.displayName
    simpa using hshown

theorem Renames.shortName (hv : v.Homely K) : w'.shortName (v.rename ρ) = w.shortName v := by
  have hclass := Value.class?_rename (ρ := ρ) v
  have horigin := Value.origin?_rename (ρ := ρ) v
  have harguments := Value.arguments_rename (ρ := ρ) v
  have hdisplay := h.displayName hv
  have hnone : (v.arguments.map (Value.rename ρ)).any (fun a => a.same Value.noneType) =
      v.arguments.any fun a => a.same Value.noneType := by
    rw [List.any_map]
    refine Value.any_congr_mem fun a _ => ?_
    rw [Function.comp_apply, ← Value.rename_noneType (ρ := ρ), Value.same_rename,
      Value.rename_noneType]
  cases v with
  | typeVar i =>
    simp only [Value.rename_typeVar, World.shortName, h.typeVars, Option.map_map]
    rfl
  | paramSpec i => simp only [Value.rename_paramSpec, World.shortName, h.paramSpecs]
  | form n => rfl
  | function m n => rfl
  | module m => rfl
  | _ =>
    rw [World.shortName.eq_6 w' _ (by simp) (by simp) (by simp) (by simp) (by simp),
      World.shortName.eq_6 w _ (by simp) (by simp) (by simp) (by simp) (by simp), hclass, horigin,
      harguments, hnone,
      List.length_map, hdisplay]
    generalize Value.class? _ = c
    generalize Value.origin? _ = o
    rcases c with _ | c
    · rcases o with _ | ⟨c | n⟩
      · rfl
      · rfl
      · by_cases hn : n = "Union"
        · simp only [hn, Option.map_none, Option.map_some, Value.Origin.rename]
        · simp only [Option.map_none, Option.map_some, Value.Origin.rename]
    · exact h.nameOf

omit h in
/-- A question about the class behind a value. -/
theorem class?_question {α : Type} {f f' : ClassRef → α} (hf : ∀ c, f' (c.rename ρ) = f c)
    (v : Value) : (v.rename ρ).class?.map f' = v.class?.map f := by
  rw [Value.class?_rename, Option.map_map]
  exact congrArg (fun g => v.class?.map g) (funext hf)

theorem Renames.isEnumType (v : Value) : w'.isEnumType (v.rename ρ) = w.isEnumType v := by
  unfold World.isEnumType
  rw [class?_question (fun _ => h.isEnumeration)]

theorem Renames.isInterfaceType (v : Value) :
    w'.isInterfaceType (v.rename ρ) = w.isInterfaceType v := by
  unfold World.isInterfaceType
  rw [class?_question (fun _ => h.isProtocol)]

theorem Renames.isStructuralType (v : Value) :
    w'.isStructuralType (v.rename ρ) = w.isStructuralType v := by
  unfold World.isStructuralType
  rw [Value.class?_rename]
  cases v.class? with
  | none => rfl
  | some c => simp only [Option.map_some, h.isEnumeration, h.moduleOf]

theorem Renames.declaredParameters (v : Value) :
    w'.declaredParameters (v.rename ρ) = (w.declaredParameters v).map (Value.rename ρ) := by
  cases v with
  | cls c =>
    rw [Value.rename_cls, World.declaredParameters, World.declaredParameters, genericRoot,
      ClassRef.rename_beq_library, h.parametersOf]
    split <;> rfl
  | _ => simp [World.declaredParameters]

theorem Renames.homely_declaredParameters (v : Value) : AllHomely K (w.declaredParameters v) := by
  cases v with
  | cls c =>
    rw [World.declaredParameters]
    split
    · exact allHomely_nil
    · exact h.homely_parametersOf
  | _ => exact allHomely_nil

theorem Renames.parameter? (v : Value) :
    w'.parameter? (v.rename ρ) = (w.parameter? v).map (TypeVariable.rename ρ) := by
  cases v with
  | typeVar i => exact h.typeVars i
  | _ => simp [World.parameter?]

theorem Renames.homely_of_parameter {p : TypeVariable} (hp : w.parameter? v = some p) :
    p.Homely K := by
  cases v with
  | typeVar i => exact h.homelyVars hp
  | _ => cases hp

theorem Renames.needsConstructor (v : Value) :
    ((w'.parameter? (v.rename ρ)).map TypeVariable.needsConstructor).getD false =
      ((w.parameter? v).map TypeVariable.needsConstructor).getD false := by
  rw [h.parameter?, Option.map_map]
  rfl

omit h in
theorem lookup_scalarKinds_rename (c : ClassRef) :
    scalarKinds.lookup (c.rename ρ) = scalarKinds.lookup c := by
  have hall : ∀ e ∈ scalarKinds, isLibrary e.1 = true := by decide
  generalize scalarKinds = kinds at hall
  induction kinds with
  | nil => rfl
  | cons e kinds ih =>
    obtain ⟨d, k⟩ := e
    obtain ⟨hd, hkinds⟩ := List.forall_mem_cons.mp hall
    replace hd : isLibrary d = true := hd
    have hbeq : (c.rename ρ == d) = (c == d) := by
      rw [← rename_of_isLibrary (ρ := ρ) hd, ClassRef.rename_beq, rename_of_isLibrary hd]
    rw [List.lookup_cons, List.lookup_cons, hbeq, ih hkinds]

omit h in
/-- A library class is among others just where the class itself is. -/
theorem contains_rename_library {cs : List ClassRef} (hcs : ∀ c ∈ cs, isLibrary c = true)
    (c : ClassRef) : cs.contains (c.rename ρ) = cs.contains c := by
  rw [← contains_rename (ρ := ρ) cs c, rename_library_classes hcs]

end Names

/-! What types refer to. -/

section References

variable (h : w.Renames ρ K w') (hshare : w.SharesNames ρ K w') (hw : w.Closed)

include h hw

/-- The type of an annotation. -/
theorem kin_annotation (hshare : w.SharesNames ρ K w') {locals : List (String × Value)} {m : String}
    (hs : w.SoundNames locals) (hh : HomelyNames K locals) (hm : K m) (hsv : w.Sound v)
    (hv : v.Homely K) :
    w.Kin ρ K (w.annotationType locals m v).1
        (w'.annotationType (renamedNames ρ locals) m (v.rename ρ)).1 ∧
      (w'.annotationType (renamedNames ρ locals) m (v.rename ρ)).2 =
        (w.annotationType locals m v).2 := by
  rw [h.annotationType hshare hh hm hv]
  exact ⟨kin_image (sound_annotationType hw hs hsv) (h.homely_annotationType hshare hh hm hv), rfl⟩

omit h hw in
theorem homelyNames_nil : HomelyNames K [] := fun _ he => (List.not_mem_nil he).elim

theorem kin_boundOf (hshare : w.SharesNames ρ K w') (v : Value) :
    List.Forall₂ (w.Kin ρ K) (w.boundOf v).1 (w'.boundOf (v.rename ρ)).1 ∧
      (w'.boundOf (v.rename ρ)).2 = (w.boundOf v).2 := by
  unfold boundOf
  rw [h.parameter?]
  cases hp : w.parameter? v with
  | none => exact ⟨.nil, rfl⟩
  | some p =>
    have hsound := sound_of_parameter hw hp
    have hhomely := h.homely_of_parameter hp
    simp only [Option.map_some, TypeVariable.rename]
    cases hb : p.bound with
    | none => exact ⟨.nil, rfl⟩
    | some b =>
      have hmem : b ∈ p.bound.toList ++ p.alternatives :=
        List.mem_append_left _ (Option.mem_toList.mpr hb)
      obtain ⟨hkin, hnotes⟩ := kin_annotation h hw hshare sound_noNames homelyNames_nil
        hhomely.module (hsound b hmem) (hhomely.bounds b hmem)
      exact ⟨.cons (hkin.describe h hw) .nil, hnotes⟩

theorem kin_alternativesOf (hshare : w.SharesNames ρ K w') (v : Value) :
    List.Forall₂ (w.Kin ρ K) (w.alternativesOf v).1 (w'.alternativesOf (v.rename ρ)).1 ∧
      (w'.alternativesOf (v.rename ρ)).2 = (w.alternativesOf v).2 := by
  unfold alternativesOf
  rw [h.parameter?]
  cases hp : w.parameter? v with
  | none => exact ⟨.nil, rfl⟩
  | some p =>
    have hsound := sound_of_parameter hw hp
    have hhomely := h.homely_of_parameter hp
    have hone : ∀ a ∈ p.alternatives, _ := fun a ha =>
      kin_annotation h hw hshare sound_noNames homelyNames_nil hhomely.module
        (hsound a (List.mem_append_right _ ha)) (hhomely.bounds a (List.mem_append_right _ ha))
    simp only [Option.map_some, TypeVariable.rename, List.map_map]
    generalize p.alternatives = xs at hone
    induction xs with
    | nil => exact ⟨.nil, rfl⟩
    | cons a xs ih =>
      obtain ⟨⟨hkin, hnotes⟩, hxs⟩ := List.forall_mem_cons.mp hone
      obtain ⟨hkins, hmore⟩ := ih hxs
      refine ⟨.cons (hkin.describe h hw) hkins, ?_⟩
      simp only [List.map_cons, List.flatMap_cons]
      exact congrArg₂ (· ++ ·) hnotes hmore

theorem kin_supertypesOf (v : Value) :
    List.Forall₂ (w.Kin ρ K) (w.supertypesOf v) (w'.supertypesOf (v.rename ρ)) := by
  unfold supertypesOf
  rw [Value.class?_rename]
  cases v.class? with
  | none => exact .nil
  | some c =>
    dsimp only [Option.map_some]
    rw [h.writtenBasesOf]
    refine kin_described h hw (filter_of_forall₂ ?_ fun x y hxy => ?_)
    · exact kin_images (sound_writtenBasesOf hw c) h.homely_writtenBasesOf
    · rw [hxy.image, isMentioned_rename]

theorem kin_baseOf (v : Value) :
    Option.Rel (w.Kin ρ K) (w.baseOf v) (w'.baseOf (v.rename ρ)) := by
  unfold baseOf
  rw [h.isInterfaceType]
  split
  · exact .none
  · exact find?_of_forall₂ (kin_supertypesOf h hw v) fun x y hxy => by
      rw [hxy.image, h.isInterfaceType]

theorem kin_interfacesOf (v : Value) :
    List.Forall₂ (w.Kin ρ K) (w.interfacesOf v) (w'.interfacesOf (v.rename ρ)) := by
  have hbase := kin_baseOf h hw v
  have hsupertypes := kin_supertypesOf h hw v
  unfold interfacesOf
  generalize w.baseOf v = x at hbase
  generalize w'.baseOf (v.rename ρ) = y at hbase
  cases hbase with
  | none => exact hsupertypes
  | some hb =>
    refine filter_of_forall₂ hsupertypes fun x y hxy => ?_
    rw [hxy.image, hb.image, Value.same_rename]

theorem kin_arguments (hv : w.Kin ρ K v v') :
    List.Forall₂ (w.Kin ρ K) (v.arguments.map w.describe) (v'.arguments.map w'.describe) := by
  rw [hv.image, Value.arguments_rename]
  exact kin_described h hw (kin_images (sound_arguments hv.sound) (Value.homely_arguments hv.homely))

theorem kin_argument (hv : w.Kin ρ K v v') (i : Nat) :
    w.Kin ρ K (w.describe ((v.arguments[i]?).getD Value.any))
      (w'.describe ((v'.arguments[i]?).getD Value.any)) := by
  refine Kin.describe h hw ?_
  rw [hv.image, Value.arguments_rename, List.getElem?_map]
  cases hi : v.arguments[i]? with
  | none => exact kin_image (v := Value.any) sound_any Value.homely_any
  | some x =>
    have hx := List.mem_of_getElem? hi
    exact kin_image (sound_arguments hv.sound x hx) (Value.homely_arguments hv.homely x hx)

theorem kin_elementOf (hv : w.Kin ρ K v v') :
    Option.Rel (w.Kin ρ K) (w.elementOf v) (w'.elementOf v') := by
  have hsequences : ∀ c ∈ sequenceClasses, isLibrary c = true := by decide
  have hfirst := kin_argument h hw hv 0
  have hempty : v'.arguments.isEmpty = v.arguments.isEmpty := by
    rw [hv.image, Value.arguments_rename, List.isEmpty_map]
  have hopen : isOpenTuple v'.arguments = isOpenTuple v.arguments := by
    rw [hv.image, Value.arguments_rename, isOpenTuple_rename]
  unfold elementOf containerOf
  rw [hv.image, Value.class?_rename, ← hv.image]
  cases v.class? with
  | none => exact .none
  | some c =>
    simp only [Option.map_some, contains_rename_library hsequences, builtin,
      ClassRef.rename_beq_library, hempty, hopen, List.head?_eq_getElem?]
    split
    · exact .some hfirst
    split
    · exact .some hfirst
    · exact .none

theorem kin_keyValueOf (hv : w.Kin ρ K v v') :
    Option.Rel (fun p p' => w.Kin ρ K p.1 p'.1 ∧ w.Kin ρ K p.2 p'.2) (w.keyValueOf v)
      (w'.keyValueOf v') := by
  have hmappings : ∀ c ∈ mappingClasses, isLibrary c = true := by decide
  unfold keyValueOf containerOf
  rw [hv.image, Value.class?_rename, ← hv.image]
  cases v.class? with
  | none => exact .none
  | some c =>
    simp only [Option.map_some, contains_rename_library hmappings]
    split
    · exact .some ⟨kin_argument h hw hv 0, kin_argument h hw hv 1⟩
    · exact .none

theorem kin_tupleOf (hv : w.Kin ρ K v v') :
    Option.Rel (List.Forall₂ (w.Kin ρ K)) (w.tupleOf v) (w'.tupleOf v') := by
  have hclass : (v'.class? == some (builtin "tuple")) = (v.class? == some (builtin "tuple")) := by
    rw [hv.image, Value.class?_rename]
    cases v.class? with
    | none => rfl
    | some c =>
      rw [Option.map_some, builtin, Option.some_beq_some, Option.some_beq_some,
        ClassRef.rename_beq_library]
  have hempty : v'.arguments.isEmpty = v.arguments.isEmpty := by
    rw [hv.image, Value.arguments_rename, List.isEmpty_map]
  have hopen : isOpenTuple v'.arguments = isOpenTuple v.arguments := by
    rw [hv.image, Value.arguments_rename, isOpenTuple_rename]
  unfold tupleOf containerOf
  rw [hclass, hempty, hopen]
  split
  · exact .some (kin_arguments h hw hv)
  · exact .none

theorem kin_alternativesOfUnion (hv : w.Kin ρ K v v') :
    List.Forall₂ (w.Kin ρ K) (w.alternativesOfUnion v) (w'.alternativesOfUnion v') := by
  rw [hv.image]
  cases v with
  | union piped xs =>
    rw [Value.rename_union]
    exact kin_described h hw
      (kin_images (sound_union.mp hv.sound) (Value.homely_union.mp hv.homely))
  | _ => simp [alternativesOfUnion]

/-- A field or a property, as it stands in another world. -/
def KinMember (ρ : Renaming) (K : String → Prop) (w : World)
    (m m' : (String × Value) × List String) : Prop :=
  m'.1.1 = m.1.1 ∧ w.Kin ρ K m.1.2 m'.1.2 ∧ m'.2 = m.2

theorem kin_fieldsOf (hshare : w.SharesNames ρ K w') (c : ClassRef) :
    List.Forall₂ (w.KinMember ρ K) (w.fieldsOf c) (w'.fieldsOf (c.rename ρ)) := by
  have hannotations := h.annotationsOf (c := c)
  have hhomely := h.homely_annotationsOf (c := c)
  have hsound := sound_annotationsOf hw c
  have hmodule : w.annotationsOf c ≠ [] → K (w.moduleOf c) := by
    cases c with
    | library m n => exact fun hne => (hne rfl).elim
    | declared i =>
      intro hne
      unfold World.annotationsOf info? at hne
      unfold World.moduleOf
      dsimp only at hne ⊢
      cases hi : w.classes[i]? with
      | none =>
        rw [hi] at hne
        exact (hne rfl).elim
      | some info => exact (h.homelyClasses hi).module
  unfold fieldsOf
  rw [hannotations, h.classNames, h.moduleOf]
  dsimp only
  by_cases hnil : w.annotationsOf c = []
  · rw [hnil]
    exact .nil
  have hm := hmodule hnil
  refine map_of_forall₂ (S := fun a a' => (w.Sound a.2 ∧ a.2.Homely K) ∧ a' = (a.1, a.2.rename ρ))
    (filter_of_forall₂ ?_ ?_) ?_
  · unfold renamedNames
    generalize w.annotationsOf c = xs at hhomely hsound
    induction xs with
    | nil => exact .nil
    | cons a xs ih =>
      obtain ⟨ha, hxs⟩ := List.forall_mem_cons.mp hhomely
      obtain ⟨hsa, hsxs⟩ := List.forall_mem_cons.mp hsound
      by_cases hempty : xs = []
      · subst hempty
        exact .cons ⟨⟨hsa, ha⟩, rfl⟩ .nil
      · exact .cons ⟨⟨hsa, ha⟩, rfl⟩ (ih hxs hsxs)
  · rintro a _ ⟨-, rfl⟩
    rw [marksField_rename]
  · rintro a _ ⟨⟨hsa, ha⟩, rfl⟩
    obtain ⟨hkin, hnotes⟩ := kin_annotation h hw hshare (sound_classNames hw c)
      h.homely_classNames hm hsa ha
    exact ⟨rfl, hkin, hnotes⟩

theorem kin_propertiesOf (hshare : w.SharesNames ρ K w') (c : ClassRef) :
    List.Forall₂ (w.KinMember ρ K) (w.propertiesOf c) (w'.propertiesOf (c.rename ρ)) := by
  have hhomely := h.homely_attributesOf (c := c)
  have hsound := sound_attributesOf hw (c := c)
  unfold propertiesOf
  rw [h.attributesOf]
  unfold renamedAttributes
  generalize w.attributesOf c = xs at hhomely hsound
  induction xs with
  | nil => exact .nil
  | cons a xs ih =>
    obtain ⟨ha, hxs⟩ := List.forall_mem_cons.mp hhomely
    obtain ⟨hsa, hsxs⟩ := List.forall_mem_cons.mp hsound
    have hrest := ih hxs hsxs
    obtain ⟨n, a⟩ := a
    rw [List.map_cons, List.filterMap_cons, List.filterMap_cons]
    generalize List.filterMap _ xs = properties at hrest ⊢
    generalize List.filterMap _ (List.map _ xs) = properties' at hrest ⊢
    rcases a with v | ⟨_ | g, b⟩ | b
    · exact hrest
    · exact hrest
    · simp only [Attribute.rename, Option.map_some]
      split
      · next hhidden =>
        split at hhidden
        · next hn => simpa only [if_pos hn] using hrest
        · cases hhidden
      · next x hx =>
        split at hx
        · cases hx
        · next hn =>
          cases hx
          rw [if_neg hn]
          refine .cons ?_ hrest
          have hreturns : (g.rename ρ).returns.getD Value.any =
              (g.returns.getD Value.any).rename ρ := by
            unfold Getter.rename
            cases g.returns <;> rfl
          have hsv : w.Sound (g.returns.getD Value.any) := by
            cases hr : g.returns with
            | none => exact sound_any
            | some v => exact hsa v hr
          have hhv : (g.returns.getD Value.any).Homely K := by
            cases hr : g.returns with
            | none => exact Value.homely_any
            | some v => exact ha.2 v hr
          obtain ⟨hkin, hnotes⟩ := kin_annotation h hw hshare sound_noNames homelyNames_nil ha.1
            hsv hhv
          rw [hreturns]
          exact ⟨rfl, hkin, hnotes⟩
    · exact hrest

theorem kin_typeMembers (hshare : w.SharesNames ρ K w') (v : Value) :
    List.Forall₂ (fun m m' => m'.1 = m.1 ∧ w.Kin ρ K m.2 m'.2) (w.typeMembers v)
      (w'.typeMembers (v.rename ρ)) := by
  unfold typeMembers
  rw [Value.class?_rename]
  cases v.class? with
  | none => exact .nil
  | some c =>
    dsimp only [Option.map_some]
    have hfields := filter_of_forall₂ (p := fun f => marksField f.1.2)
      (q := fun f => marksField f.1.2) (kin_fieldsOf h hw hshare c)
      fun x y hxy => by rw [hxy.2.1.image, marksField_rename]
    exact map_of_forall₂ (append_of_forall₂ hfields (kin_propertiesOf h hw hshare c))
      fun m m' hm => ⟨hm.1, hm.2.1.describe h hw⟩

theorem memberNotes_renamed (hshare : w.SharesNames ρ K w') (v : Value) :
    w'.memberNotesOf (v.rename ρ) = w.memberNotesOf v := by
  unfold memberNotesOf
  rw [Value.class?_rename]
  cases v.class? with
  | none => rfl
  | some c =>
    dsimp only [Option.map_some]
    rw [List.flatMap_def, List.flatMap_def, map_eq_of_forall₂ (append_of_forall₂
      (kin_fieldsOf h hw hshare c) (kin_propertiesOf h hw hshare c)) fun m m' hm => hm.2.2]

/-- A value and its relative are described alike. -/
theorem mirrors_kin (hshare : w.SharesNames ρ K w') (hv : w.Kin ρ K v v') :
    w.types.Mirrors (w.Kin ρ K) w'.types v v' where
  displayName := by
    rw [hv.image]
    exact h.displayName hv.homely
  name := by
    rw [hv.image]
    exact h.shortName hv.homely
  isEnum := by
    rw [hv.image]
    exact h.isEnumType v
  isInterface := by
    rw [hv.image]
    exact h.isInterfaceType v
  isAbstract := by
    rw [hv.image]
    exact congrArg (Option.getD · false) (class?_question (fun c => by rw [h.abstractsOf]) v)
  isStructural := by
    rw [hv.image]
    exact h.isStructuralType v
  isParameter := by
    rw [hv.image]
    exact (congrArg Option.isSome (h.parameter? v)).trans Option.isSome_map
  isDefinition := by
    rw [hv.image]
    exact congrArg (! ·) ((congrArg List.isEmpty (h.declaredParameters v)).trans List.isEmpty_map)
  isConstructed := by
    rw [hv.image]
    exact Value.isConstructed_rename v
  needsConstructor := by
    rw [hv.image]
    exact h.needsConstructor v
  primitive := by
    rw [hv.image]
    cases v with
    | cls c => exact lookup_scalarKinds_rename c
    | _ => simp [types]
  definition := ⟨sound_definitionOf hv.sound, homely_definitionOf hv.homely, by
    rw [hv.image]
    exact definitionOf_rename v⟩
  arguments := by
    change List.Forall₂ _ (if v.isConstructed then _ else _) (if v'.isConstructed then _ else _)
    have hconstructed : v'.isConstructed = v.isConstructed := by
      rw [hv.image, Value.isConstructed_rename]
    rw [hconstructed]
    split
    · exact kin_arguments h hw hv
    · rw [hv.image, h.declaredParameters]
      exact kin_described h hw
        (kin_images (sound_declaredParameters hw v) (h.homely_declaredParameters v))
  bounds := by
    rw [hv.image]
    exact (kin_boundOf h hw hshare v).1
  alternatives := by
    rw [hv.image]
    exact (kin_alternativesOf h hw hshare v).1
  base := by
    rw [hv.image]
    exact kin_baseOf h hw v
  interfaces := by
    rw [hv.image]
    exact kin_interfacesOf h hw v
  members := by
    rw [hv.image]
    exact kin_typeMembers h hw hshare v
  enumMembers := by
    rw [hv.image]
    change (if w'.isEnumType _ then _ else _) = (if w.isEnumType v then _ else _)
    rw [h.isEnumType, class?_question (fun c => h.membersOf)]
  element := kin_elementOf h hw hv
  keyValue := kin_keyValueOf h hw hv
  tuple := kin_tupleOf h hw hv
  union := kin_alternativesOfUnion h hw hv
  memberNotes := by
    rw [hv.image]
    exact memberNotes_renamed h hw hshare v
  boundNotes := by
    rw [hv.image]
    exact (kin_boundOf h hw hshare v).2
  alternativeNotes := by
    rw [hv.image]
    exact (kin_alternativesOf h hw hshare v).2

end References

end World

end TypeProjection.Annotation
