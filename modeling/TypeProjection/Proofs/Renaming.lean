import TypeProjection.Proofs.AnnotationKeys
import TypeProjection.Proofs.SoundValues

/-!
# Other serials

Classes, variables and named types are found by their serials, and which serials those are is an
accident of what was made before. A renaming gives everything another serial, except for what the
library has. Renamed values are equal, hashable and repeated just where the values are.
-/

namespace TypeProjection.Annotation

/-- Other serials for all that a world makes. The variables of the library keep theirs. -/
structure Renaming where
  cls : Nat → Nat
  typeVar : Nat → Nat
  paramSpec : Nat → Nat
  newType : Nat → Nat
  cls_injective : Function.Injective cls
  typeVar_injective : Function.Injective typeVar
  paramSpec_injective : Function.Injective paramSpec
  newType_injective : Function.Injective newType
  library : ∀ i < libraryVariables.length, typeVar i = i

namespace Renaming

variable {ρ : Renaming} {i j : Nat}

@[simp] theorem cls_inj : ρ.cls i = ρ.cls j ↔ i = j := ρ.cls_injective.eq_iff
@[simp] theorem typeVar_inj : ρ.typeVar i = ρ.typeVar j ↔ i = j := ρ.typeVar_injective.eq_iff
@[simp] theorem paramSpec_inj : ρ.paramSpec i = ρ.paramSpec j ↔ i = j :=
  ρ.paramSpec_injective.eq_iff
@[simp] theorem newType_inj : ρ.newType i = ρ.newType j ↔ i = j := ρ.newType_injective.eq_iff

end Renaming

/-- The class with another serial. -/
def ClassRef.rename (ρ : Renaming) : ClassRef → ClassRef
  | .library m n => .library m n
  | .declared i => .declared (ρ.cls i)

section ClassRef

variable {ρ : Renaming} {c d : ClassRef}

@[simp] theorem ClassRef.rename_library {m n : String} :
    (ClassRef.library m n).rename ρ = .library m n := rfl

@[simp] theorem ClassRef.rename_declared {i : Nat} :
    (ClassRef.declared i).rename ρ = .declared (ρ.cls i) := rfl

theorem ClassRef.rename_injective : Function.Injective (ClassRef.rename ρ) := by
  intro c d h
  cases c <;> cases d
  · exact h
  · cases h
  · cases h
  · exact congrArg ClassRef.declared (ρ.cls_injective (ClassRef.declared.inj h))

@[simp] theorem ClassRef.rename_eq_library {m n : String} :
    c.rename ρ = .library m n ↔ c = .library m n := by
  cases c <;> simp

@[simp] theorem ClassRef.rename_beq : (c.rename ρ == d.rename ρ) = (c == d) := by
  rw [Bool.eq_iff_iff, beq_iff_eq, beq_iff_eq]
  exact ClassRef.rename_injective.eq_iff

@[simp] theorem ClassRef.rename_beq_library {m n : String} :
    (c.rename ρ == .library m n) = (c == .library m n) :=
  ClassRef.rename_beq (d := .library m n)

@[simp] theorem ClassRef.equals_rename : (c.rename ρ).equals (d.rename ρ) = c.equals d := by
  rw [Bool.eq_iff_iff, equals_iff, equals_iff, rename_injective.eq_iff]
  simp only [World.laterProtocolRoot, World.protocolRoot, rename_eq_library]

theorem ClassRef.equals_rename_library {m n : String} :
    (c.rename ρ).equals (.library m n) = c.equals (.library m n) :=
  ClassRef.equals_rename (d := .library m n)

theorem contains_rename (cs : List ClassRef) (c : ClassRef) :
    (cs.map (ClassRef.rename ρ)).contains (c.rename ρ) = cs.contains c := by
  rw [Bool.eq_iff_iff, List.contains_iff_mem, List.contains_iff_mem]
  exact List.mem_map_of_injective ClassRef.rename_injective

end ClassRef

namespace Value

/-- The value with other serials. -/
def rename (ρ : Renaming) : Value → Value
  | .none => .none
  | .ellipsis => .ellipsis
  | .bool b => .bool b
  | .int n => .int n
  | .float x => .float x
  | .str s => .str s
  | .bytes bs => .bytes bs
  | .list xs => .list (renameAll ρ xs)
  | .tuple xs => .tuple (renameAll ρ xs)
  | .set xs => .set (renameAll ρ xs)
  | .dict ks vs => .dict (renameAll ρ ks) (renameAll ρ vs)
  | .cls c => .cls (c.rename ρ)
  | .typeVar i => .typeVar (ρ.typeVar i)
  | .paramSpec i => .paramSpec (ρ.paramSpec i)
  | .newType i => .newType (ρ.newType i)
  | .form name => .form name
  | .alias name => .alias name
  | .applied name origin xs => .applied name (origin.rename ρ) (renameAll ρ xs)
  | .native origin xs => .native (origin.rename ρ) (renameAll ρ xs)
  | .formed name xs => .formed name (renameAll ρ xs)
  | .looseCallable xs => .looseCallable (renameAll ρ xs)
  | .union piped xs => .union piped (renameAll ρ xs)
  | .annotated inner notes => .annotated (rename ρ inner) (renameAll ρ notes)
  | .forward text m allowsForms => .forward text m allowsForms
  | .initVar inner => .initVar (rename ρ inner)
  | .member owner name => .member (owner.rename ρ) name
  | .function m name => .function m name
  | .module m => .module m
  | .other display => .other display
where
  renameAll (ρ : Renaming) : List Value → List Value
    | [] => []
    | v :: vs => rename ρ v :: renameAll ρ vs

/-- A property of values that passes from what is inside of a value to the value itself. -/
@[elab_as_elim]
theorem children_induction {P : Value → Prop} (h : ∀ v, (∀ x ∈ v.children, P x) → P v)
    (v : Value) : P v := by
  induction hn : sizeOf v using Nat.strongRecOn generalizing v with
  | ind n ih =>
    subst hn
    refine h v fun x hx => ih _ ?_ x rfl
    have hlist : ∀ {xs : List Value}, x ∈ xs → sizeOf x < sizeOf xs := List.sizeOf_lt_of_mem
    cases v with
    | dict ks vs =>
      have hmem : x ∈ ks ∨ x ∈ vs := List.mem_append.mp hx
      rw [dict.sizeOf_spec]
      rcases hmem with hmem | hmem
      · have := hlist hmem
        omega
      · have := hlist hmem
        omega
    | annotated inner notes =>
      rw [annotated.sizeOf_spec]
      rcases List.mem_cons.mp hx with rfl | hmem
      · omega
      · have := hlist hmem
        omega
    | initVar inner =>
      cases List.mem_singleton.mp hx
      rw [initVar.sizeOf_spec]
      omega
    | list xs | tuple xs | set xs | looseCallable xs | formed n xs | native c xs | applied n c xs
    | union p xs =>
      have := @hlist xs hx
      simp only [list.sizeOf_spec, tuple.sizeOf_spec, set.sizeOf_spec, looseCallable.sizeOf_spec,
        formed.sizeOf_spec, native.sizeOf_spec, applied.sizeOf_spec, union.sizeOf_spec]
      omega
    | _ => exact (List.not_mem_nil hx).elim

variable {ρ : Renaming} {x y : Value} {xs ys : List Value}

theorem renameAll_eq_map : rename.renameAll ρ xs = xs.map (rename ρ) := by
  induction xs with
  | nil => rfl
  | cons x xs ih => exact congrArg (x.rename ρ :: ·) ih

section Shapes

variable {c : ClassRef} {n s m : String} {i : Nat} {inner : Value} {notes : List Value}

@[simp] theorem rename_none : Value.none.rename ρ = .none := rfl
@[simp] theorem rename_ellipsis : Value.ellipsis.rename ρ = .ellipsis := rfl
@[simp] theorem rename_bool {b : Bool} : (Value.bool b).rename ρ = .bool b := rfl
@[simp] theorem rename_int {k : Int} : (Value.int k).rename ρ = .int k := rfl
@[simp] theorem rename_float {f : Binary64} : (Value.float f).rename ρ = .float f := rfl
@[simp] theorem rename_str : (Value.str s).rename ρ = .str s := rfl
@[simp] theorem rename_bytes {bs : List Nat} : (Value.bytes bs).rename ρ = .bytes bs := rfl
@[simp] theorem rename_cls : (Value.cls c).rename ρ = .cls (c.rename ρ) := rfl
@[simp] theorem rename_typeVar : (Value.typeVar i).rename ρ = .typeVar (ρ.typeVar i) := rfl
@[simp] theorem rename_paramSpec : (Value.paramSpec i).rename ρ = .paramSpec (ρ.paramSpec i) := rfl
@[simp] theorem rename_newType : (Value.newType i).rename ρ = .newType (ρ.newType i) := rfl
@[simp] theorem rename_form : (Value.form n).rename ρ = .form n := rfl
@[simp] theorem rename_alias : (Value.alias n).rename ρ = .alias n := rfl
@[simp] theorem rename_forward {b : Bool} : (Value.forward s m b).rename ρ = .forward s m b := rfl
@[simp] theorem rename_member : (Value.member c n).rename ρ = .member (c.rename ρ) n := rfl
@[simp] theorem rename_function : (Value.function m n).rename ρ = .function m n := rfl
@[simp] theorem rename_module : (Value.module m).rename ρ = .module m := rfl
@[simp] theorem rename_other : (Value.other s).rename ρ = .other s := rfl
@[simp] theorem rename_initVar : (Value.initVar inner).rename ρ = .initVar (inner.rename ρ) := rfl

@[simp] theorem rename_list : (Value.list xs).rename ρ = .list (xs.map (rename ρ)) :=
  congrArg Value.list renameAll_eq_map

@[simp] theorem rename_tuple : (Value.tuple xs).rename ρ = .tuple (xs.map (rename ρ)) :=
  congrArg Value.tuple renameAll_eq_map

@[simp] theorem rename_set : (Value.set xs).rename ρ = .set (xs.map (rename ρ)) :=
  congrArg Value.set renameAll_eq_map

@[simp] theorem rename_dict :
    (Value.dict xs ys).rename ρ = .dict (xs.map (rename ρ)) (ys.map (rename ρ)) :=
  congrArg₂ Value.dict renameAll_eq_map renameAll_eq_map

@[simp] theorem rename_applied :
    (Value.applied n c xs).rename ρ = .applied n (c.rename ρ) (xs.map (rename ρ)) :=
  congrArg (Value.applied n (c.rename ρ)) renameAll_eq_map

@[simp] theorem rename_native :
    (Value.native c xs).rename ρ = .native (c.rename ρ) (xs.map (rename ρ)) :=
  congrArg (Value.native (c.rename ρ)) renameAll_eq_map

@[simp] theorem rename_formed : (Value.formed n xs).rename ρ = .formed n (xs.map (rename ρ)) :=
  congrArg (Value.formed n) renameAll_eq_map

@[simp] theorem rename_looseCallable :
    (Value.looseCallable xs).rename ρ = .looseCallable (xs.map (rename ρ)) :=
  congrArg Value.looseCallable renameAll_eq_map

@[simp] theorem rename_union {b : Bool} :
    (Value.union b xs).rename ρ = .union b (xs.map (rename ρ)) :=
  congrArg (Value.union b) renameAll_eq_map

@[simp] theorem rename_annotated :
    (Value.annotated inner notes).rename ρ = .annotated (inner.rename ρ) (notes.map (rename ρ)) :=
  congrArg (Value.annotated (inner.rename ρ)) renameAll_eq_map

@[simp] theorem rename_noneType : noneType.rename ρ = noneType := rfl

@[simp] theorem rename_any : Value.any.rename ρ = Value.any := rfl

end Shapes

/-! Equality. -/

@[simp] theorem number?_rename (x : Value) : (x.rename ρ).number? = x.number? := by
  cases x <;> simp [number?]

@[simp] theorem kindWord_rename (x : Value) : (x.rename ρ).kindWord = x.kindWord := by
  cases x <;> simp [kindWord]

/-- Renamed items pass the tests of renamed items just where the items pass. -/
theorem itemwise_rename (h : ∀ x ∈ xs, ∀ y, (x.rename ρ).same (y.rename ρ) = x.same y) :
    itemwise (same.tests (xs.map (rename ρ))) (ys.map (rename ρ)) =
      itemwise (same.tests xs) ys := by
  induction xs generalizing ys with
  | nil => cases ys <;> rfl
  | cons x xs ih =>
    obtain ⟨hx, hxs⟩ := List.forall_mem_cons.mp h
    cases ys with
    | nil => rfl
    | cons y ys =>
      simp only [List.map_cons, same.tests, itemwise, hx, ih hxs]

theorem all_congr_mem {α : Type} {p q : α → Bool} {zs : List α} (h : ∀ z ∈ zs, p z = q z) :
    zs.all p = zs.all q := by
  induction zs with
  | nil => rfl
  | cons z zs ih =>
    obtain ⟨hz, hzs⟩ := List.forall_mem_cons.mp h
    rw [List.all_cons, List.all_cons, hz, ih hzs]

theorem any_congr_mem {α : Type} {p q : α → Bool} {zs : List α} (h : ∀ z ∈ zs, p z = q z) :
    zs.any p = zs.any q := by
  induction zs with
  | nil => rfl
  | cons z zs ih =>
    obtain ⟨hz, hzs⟩ := List.forall_mem_cons.mp h
    rw [List.any_cons, List.any_cons, hz, ih hzs]

/-- Tests that agree on renamed values find the same among them. -/
theorem mutually_rename {α : Type} {zs : List α} {p q : α → Value → Bool}
    (h : ∀ z ∈ zs, ∀ y, p z (y.rename ρ) = q z y) :
    mutually (zs.map p) (ys.map (rename ρ)) = mutually (zs.map q) ys := by
  unfold mutually
  simp only [List.all_map, List.any_map, Function.comp_def]
  congr 1
  · exact all_congr_mem fun z hz => any_congr_mem fun y _ => h z hz y
  · exact all_congr_mem fun y _ => any_congr_mem fun z hz => h z hz y

theorem kindTests_eq_map (xs : List Value) :
    kindTests xs (same.tests xs) = xs.map fun x y => x.same y && x.kindWord == y.kindWord := by
  rw [tests_eq_map, kindTests, List.zipWith_map_right]
  induction xs with
  | nil => rfl
  | cons x xs ih => rw [List.zipWith_cons_cons, ih, List.map_cons]

theorem entryTests_eq_map (ks vs : List Value) :
    entryTests (same.tests ks) (same.tests vs) =
      (ks.zip vs).map fun p e => p.1.same e.1 && p.2.same e.2 := by
  rw [tests_eq_map, tests_eq_map, entryTests, List.zipWith_map, List.zip, List.map_zipWith]

/-- Renamed values are equal just where the values are. -/
@[simp] theorem same_rename (x y : Value) : (x.rename ρ).same (y.rename ρ) = x.same y := by
  induction x using children_induction generalizing y with
  | _ x ih =>
    have hitems : ∀ {xs : List Value}, (∀ x' ∈ xs, x' ∈ x.children) → ∀ {ys},
        itemwise (same.tests (xs.map (rename ρ))) (ys.map (rename ρ)) =
          itemwise (same.tests xs) ys :=
      fun hxs _ => itemwise_rename fun x' hx' => ih x' (hxs x' hx')
    have hsets : ∀ {xs : List Value}, (∀ x' ∈ xs, x' ∈ x.children) → ∀ {ys},
        mutually (same.tests (xs.map (rename ρ))) (ys.map (rename ρ)) =
          mutually (same.tests xs) ys := by
      intro xs hxs ys
      rw [tests_eq_map, tests_eq_map, List.map_map]
      exact mutually_rename fun x' hx' => ih x' (hxs x' hx')
    have hnumber : ∀ n, same.sameAsNumber n (y.rename ρ) = same.sameAsNumber n y := by
      intro n
      unfold same.sameAsNumber
      rw [number?_rename]
    cases x with
    | bool b | int n | float f => exact hnumber _
    | list xs | tuple xs =>
      have hxs := @hitems xs fun _ h => h
      cases y <;> simp [same, hxs]
    | set xs | union p xs =>
      have hxs := @hsets xs fun _ h => h
      cases y <;> simp [same, hxs]
    | looseCallable xs =>
      have hxs := @hitems xs fun _ h => h
      cases y <;> simp [same, hxs, callableRoot, ClassRef.equals_rename_library]
    | applied n c xs =>
      have hxs := @hitems xs fun _ h => h
      cases y <;> simp [same, hxs]
    | native c xs =>
      have hxs := @hitems xs fun _ h => h
      cases y <;> simp [same, hxs, callableRoot, ClassRef.equals_rename_library]
    | formed n xs =>
      have hxs := @hitems xs fun _ h => h
      have hkinds : ∀ ys, mutually (kindTests (xs.map (rename ρ)) (same.tests (xs.map (rename ρ))))
          (ys.map (rename ρ)) = mutually (kindTests xs (same.tests xs)) ys := by
        intro ys
        rw [kindTests_eq_map, kindTests_eq_map, List.map_map]
        exact mutually_rename fun x' hx' y => by simp [ih x' hx' y]
      cases y <;> simp [same, hxs, hkinds]
    | dict ks vs =>
      have hks : ∀ k ∈ ks, ∀ y, (k.rename ρ).same (y.rename ρ) = k.same y :=
        fun k hk => ih k (List.mem_append_left _ hk)
      have hvs : ∀ v ∈ vs, ∀ y, (v.rename ρ).same (y.rename ρ) = v.same y :=
        fun v hv => ih v (List.mem_append_right _ hv)
      cases y with
      | dict js ws =>
        have hpairs : ∀ p ∈ ks.zip vs, ∀ e : Value × Value,
            ((p.1.rename ρ).same (e.1.rename ρ) && (p.2.rename ρ).same (e.2.rename ρ)) =
              (p.1.same e.1 && p.2.same e.2) := by
          intro p hp e
          rw [hks p.1 (List.of_mem_zip hp).1, hvs p.2 (List.of_mem_zip hp).2]
        rw [rename_dict, rename_dict]
        simp only [same, entryTests_eq_map, mutually, List.zip_map, List.all_map, List.any_map,
          Function.comp_def, Prod.map]
        congr 1
        · exact all_congr_mem fun p hp => any_congr_mem fun e _ => hpairs p hp e
        · exact all_congr_mem fun e _ => any_congr_mem fun p hp => hpairs p hp e
      | _ => simp [same]
    | annotated inner notes =>
      have hinner := ih inner (List.mem_cons_self ..)
      have hnotes := @hitems notes fun _ h => List.mem_cons_of_mem _ h
      cases y <;> simp [same, hinner, hnotes]
    | _ => cases y <;> simp [same]

/-! What depends on equality. -/

@[simp] theorem isHashable_rename (x : Value) : (x.rename ρ).isHashable = x.isHashable := by
  induction x using children_induction with
  | _ x ih =>
    have hall : ∀ {xs : List Value}, (∀ x' ∈ xs, x' ∈ x.children) →
        isHashable.allHashable (xs.map (rename ρ)) = isHashable.allHashable xs := by
      intro xs hxs
      induction xs with
      | nil => rfl
      | cons x' xs ih' =>
        obtain ⟨hx, hxs⟩ := List.forall_mem_cons.mp hxs
        rw [List.map_cons, isHashable.allHashable, isHashable.allHashable, ih x' hx, ih' hxs]
    cases x with
    | tuple xs | applied n c xs | native c xs | looseCallable xs | formed n xs | union p xs =>
      have hxs := @hall xs fun _ h => h
      simp [isHashable, hxs]
    | annotated inner notes =>
      have hinner := ih inner (List.mem_cons_self ..)
      have hnotes := @hall notes fun _ h => List.mem_cons_of_mem _ h
      simp [isHashable, hinner, hnotes]
    | _ => simp [isHashable]

@[simp] theorem beq_rename (x y : Value) : (x.rename ρ == y.rename ρ) = (x == y) := by
  change sameKey _ _ = sameKey _ _
  simp [sameKey]

/-- Items that are kept one by one are kept likewise when they are renamed. -/
theorem foldl_kept_rename (test : Value → Value → Bool)
    (h : ∀ x y, test (x.rename ρ) (y.rename ρ) = test x y) (xs kept : List Value) :
    (xs.map (rename ρ)).foldl
        (fun kept x => if kept.any (fun y => test y x) then kept else x :: kept)
        (kept.map (rename ρ)) =
      (xs.foldl (fun kept x => if kept.any (fun y => test y x) then kept else x :: kept)
        kept).map (rename ρ) := by
  induction xs generalizing kept with
  | nil => rfl
  | cons x xs ih =>
    have hany : (kept.map (rename ρ)).any (fun y => test y (x.rename ρ)) =
        kept.any fun y => test y x := by
      rw [List.any_map]
      exact any_congr_mem fun y _ => h y x
    rw [List.map_cons, List.foldl_cons, List.foldl_cons, hany, ← ih]
    congr 1
    split <;> rfl

@[simp] theorem distinctValues_rename (xs : List Value) :
    distinctValues (xs.map (rename ρ)) = (distinctValues xs).map (rename ρ) := by
  unfold distinctValues
  rw [List.map_reverse, ← foldl_kept_rename same same_rename xs []]
  rfl

@[simp] theorem distinctLiterals_rename (xs : List Value) :
    distinctLiterals (xs.map (rename ρ)) = (distinctLiterals xs).map (rename ρ) := by
  unfold distinctLiterals
  rw [List.map_reverse,
    ← foldl_kept_rename (fun y x => y.same x && y.kindWord == x.kindWord)
      (fun x y => by simp) xs []]
  rfl

end Value

end TypeProjection.Annotation
