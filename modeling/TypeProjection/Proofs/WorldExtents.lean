import Mathlib.Algebra.BigOperators.Group.Finset.Basic
import Mathlib.Algebra.Order.BigOperators.Group.Finset
import TypeProjection.Proofs.GrownWorlds
import TypeProjection.Proofs.RenamedWorlds
import TypeProjection.Proofs.Termination

/-!
# The extent of a world

The extent of a world counts the classes of the library and the bases that were written. What a type
extends is one of these, as a definition that equals itself, if all bases were written as bases can
be. So the extent bounds what can be found above a type, and the supertypes of every type are found.
A world that has another one inside of it has no smaller extent.
-/

namespace TypeProjection.Annotation

open World

/-- All bases were written as bases can be. -/
def World.WritesBases (w : World) : Prop :=
  ∀ {i : Nat} {info}, w.classes[i]? = some info → ∀ v ∈ info.writtenBases, v.IsBase

/-! What bases define. -/

section Bases

variable {w : World} {v b : Value} {c : ClassRef} {xs : List Value}

theorem beq_cls (c : ClassRef) : (Value.cls c == Value.cls c) = true := by
  change Value.sameKey _ _ = true
  simp [Value.sameKey, Value.same, Value.isHashable, ClassRef.equals_iff]

theorem definitionOf_cls (c : ClassRef) : definitionOf (.cls c) = .cls c := by
  unfold definitionOf
  rw [Value.class?_cls]
  exact ite_self _

theorem describe_of_isBase (h : b.IsBase) : w.describe b = b.peel := by
  unfold World.describe World.unwrapFrom
  cases h <;> rfl

theorem eq_nil_of_grouped
    (h : (if isFlatCallable c xs then Value.arguments.grouped xs else xs) = []) : xs = [] := by
  split at h
  · cases h
  · exact h

/-- A type that was made of a class is defined by it, unless it has no arguments. -/
theorem definitionOf_of_origin (h : v.origin? = some (.cls c)) :
    definitionOf v = .cls c ∨ definitionOf v = v ∧ v.arguments = [] := by
  have hclass : v.class? = some c := by
    unfold Value.class?
    rw [h]
  unfold definitionOf Value.isConstructed
  rw [h, hclass]
  cases hxs : v.arguments with
  | nil => exact .inr ⟨rfl, rfl⟩
  | cons x xs => exact .inl rfl

/-- The definition of a base equals itself. -/
theorem beq_definitionOf_base (h : b.IsBase) :
    (definitionOf (w.describe b) == definitionOf (w.describe b)) = true := by
  rw [describe_of_isBase h]
  have horigin : ∀ {v : Value} {c : ClassRef}, v.origin? = some (.cls c) →
      (v.arguments = [] → Value.sameKey v v = true) →
      (definitionOf v == definitionOf v) = true := by
    intro v c hv hself
    rcases definitionOf_of_origin hv with hd | ⟨hd, hxs⟩
    · rw [hd]
      exact beq_cls c
    · rw [hd]
      exact hself hxs
  cases h with
  | cls c | annotated c notes =>
    change (definitionOf (.cls c) == definitionOf (.cls c)) = true
    rw [definitionOf_cls]
    exact beq_cls c
  | applied n c xs =>
    refine horigin (v := .applied n c xs) rfl fun hxs => ?_
    cases eq_nil_of_grouped hxs
    simp [Value.sameKey, Value.same, Value.same.tests, Value.itemwise, Value.isHashable,
      Value.isHashable.allHashable, ClassRef.equals_iff]
  | native c xs =>
    refine horigin (v := .native c xs) rfl fun hxs => ?_
    cases eq_nil_of_grouped hxs
    simp [Value.sameKey, Value.same, Value.same.tests, Value.itemwise, Value.isHashable,
      Value.isHashable.allHashable, ClassRef.equals_iff]
  | looseCallable xs =>
    refine horigin (v := .looseCallable xs) rfl fun hxs => ?_
    cases eq_nil_of_grouped hxs
    rfl
  | generic n =>
    refine horigin (v := .alias n) rfl fun _ => ?_
    simp [Value.sameKey, Value.same, Value.isHashable]
  | function m n =>
    change Value.sameKey (.function m n) (.function m n) = true
    simp [Value.sameKey, Value.same, Value.isHashable]

end Bases

/-! What types extend. -/

namespace World

variable {w w' : World} {v : Value} {ρ : Renaming} {K : String → Prop}

/-- The types that can be extended: the classes of the library, and what was written among the bases
of classes. -/
def extendable (w : World) : List Value :=
  libraryClasses.map (fun c => .cls (.library c.module c.name)) ++
    w.classes.toList.flatMap fun info => info.writtenBases.map fun b => definitionOf (w.describe b)

theorem length_extendable (w : World) : w.extendable.length = w.types.extent := by
  have hfold : ∀ (infos : List ClassInfo) (n : Nat),
      infos.foldl (fun n c => n + c.writtenBases.length) n =
        n + (infos.flatMap fun info =>
          info.writtenBases.map fun b => definitionOf (w.describe b)).length := by
    intro infos
    induction infos with
    | nil => exact fun n => rfl
    | cons info infos ih =>
      intro n
      rw [List.foldl_cons, ih, List.flatMap_cons, List.length_append, List.length_map,
        Nat.add_assoc]
  change _ = w.classes.foldl (fun n c => n + c.writtenBases.length) libraryClasses.length
  rw [← Array.foldl_toList, hfold, extendable, List.length_append, List.length_map]

/-- The bases of library classes are library classes. -/
theorem listed_bases : ∀ c ∈ libraryClasses, ∀ b ∈ c.bases,
    b ∈ libraryClasses.map fun c => ClassRef.library c.module c.name := by decide +kernel

theorem listed_basesOf {m n : String} {b : ClassRef} (h : b ∈ w.basesOf (.library m n)) :
    b ∈ libraryClasses.map fun c => ClassRef.library c.module c.name := by
  change b ∈ ((libraryClass? m n).map LibraryClass.bases).getD [] at h
  cases hl : libraryClass? m n with
  | none =>
    rw [hl] at h
    exact (List.not_mem_nil h).elim
  | some l =>
    rw [hl] at h
    exact listed_bases l (List.mem_of_find?_eq_some hl) b h

theorem mem_extendable_library {c : ClassRef}
    (h : c ∈ libraryClasses.map fun c => ClassRef.library c.module c.name) :
    Value.cls c ∈ w.extendable := by
  obtain ⟨l, hl, rfl⟩ := List.mem_map.mp h
  exact List.mem_append_left _ (List.mem_map_of_mem hl)

/-- What a type extends can be extended. -/
theorem extends_extendable {v d : Value} (h : w.types.Extends v d) : d ∈ w.extendable := by
  obtain ⟨s, hs, rfl⟩ := List.mem_map.mp h
  have hsupertype : s ∈ w.supertypesOf v := by
    rcases List.mem_append.mp hs with hbase | hinterface
    · have hbase : w.baseOf v = some s := Option.mem_toList.mp hbase
      unfold baseOf at hbase
      split at hbase
      · cases hbase
      · exact List.mem_of_find?_eq_some hbase
    · have hinterface : s ∈ w.interfacesOf v := hinterface
      unfold interfacesOf at hinterface
      split at hinterface
      · exact hinterface
      · exact (List.mem_filter.mp hinterface).1
  unfold supertypesOf at hsupertype
  split at hsupertype
  · cases hsupertype
  · next c _ =>
    obtain ⟨b, hb, rfl⟩ := List.mem_map.mp hsupertype
    have hb := (List.mem_filter.mp hb).1
    cases c with
    | library m n =>
      unfold writtenBasesOf at hb
      split at hb
      · cases List.mem_singleton.mp hb
        exact mem_extendable_library (c := .library "typing" "IO") (by decide)
      · cases List.mem_singleton.mp hb
        exact mem_extendable_library (c := .library "typing" "IO") (by decide)
      · obtain ⟨c, hc, rfl⟩ := List.mem_map.mp hb
        have hdefinition : w.types.definition (w.describe (.cls c)) = .cls c := definitionOf_cls c
        rw [hdefinition]
        exact mem_extendable_library (listed_basesOf hc)
      · next heq => cases heq
    | declared i =>
      change b ∈ (w.classes[i]?.map ClassInfo.writtenBases).getD [] at hb
      cases hi : w.classes[i]? with
      | none =>
        rw [hi] at hb
        exact (List.not_mem_nil hb).elim
      | some info =>
        rw [hi] at hb
        refine List.mem_append_right _ (List.mem_flatMap.mpr ⟨info, ?_, List.mem_map_of_mem hb⟩)
        exact Array.mem_toList_iff.mpr (Array.mem_of_getElem? hi)

/-- Whatever can be extended equals itself. -/
theorem beq_of_mem_extendable (hw : w.WritesBases) (h : v ∈ w.extendable) : (v == v) = true := by
  rcases List.mem_append.mp h with hlibrary | hwritten
  · obtain ⟨c, -, rfl⟩ := List.mem_map.mp hlibrary
    exact beq_cls _
  · obtain ⟨info, hinfo, hv⟩ := List.mem_flatMap.mp hwritten
    obtain ⟨b, hb, rfl⟩ := List.mem_map.mp hv
    obtain ⟨i, hi⟩ := Array.getElem?_of_mem (Array.mem_toList_iff.mp hinfo)
    exact beq_definitionOf_base (hw hi b hb)

/-- The supertypes of every type are found. -/
theorem supertypes_found (hw : w.WritesBases) (v : Value) :
    (w.types.supertypes v).isSome = true := by
  have hself : ∀ v ∈ w.extendable, (v == v) = true := fun v hv => beq_of_mem_extendable hw hv
  refine Universe.supertypes_isSome (P := fun _ => True) hself ?_ ?_ trivial
  · exact fun v _ d hd => ⟨extends_extendable hd, trivial⟩
  · exact Nat.le_of_eq w.length_extendable

/-! Extents. -/

/-- How many bases were written for the class of a serial. -/
def writtenCount (w : World) (i : Nat) : Nat :=
  ((w.classes[i]?.map ClassInfo.writtenBases).getD []).length

theorem extent_eq (w : World) : w.types.extent =
    libraryClasses.length + ∑ i ∈ Finset.range w.classes.size, w.writtenCount i := by
  have hfold : ∀ (infos : List ClassInfo) (n : Nat),
      infos.foldl (fun n c => n + c.writtenBases.length) n = n + ∑ i ∈ Finset.range infos.length,
        ((infos[i]?.map ClassInfo.writtenBases).getD []).length := by
    intro infos
    induction infos with
    | nil => exact fun n => rfl
    | cons info infos ih =>
      intro n
      rw [List.foldl_cons, ih, List.length_cons, Finset.sum_range_succ', Nat.add_assoc,
        Nat.add_comm info.writtenBases.length]
      rfl
  change w.classes.foldl (fun n c => n + c.writtenBases.length) libraryClasses.length = _
  rw [← Array.foldl_toList, hfold]
  simp only [writtenCount, Array.getElem?_toList, Array.length_toList]

/-- A world that has another one inside of it has no smaller extent. -/
theorem extent_le_of_renames (h : w.Renames ρ K w') : w.types.extent ≤ w'.types.extent := by
  have hcount : ∀ i, w'.writtenCount (ρ.cls i) = w.writtenCount i := by
    intro i
    unfold writtenCount
    rw [h.classes i]
    cases w.classes[i]? with
    | none => rfl
    | some info => exact List.length_map ..
  rw [extent_eq, extent_eq]
  refine Nat.add_le_add_left ?_ _
  calc ∑ i ∈ Finset.range w.classes.size, w.writtenCount i
      = ∑ i ∈ Finset.range w.classes.size, w'.writtenCount (ρ.cls i) :=
        Finset.sum_congr rfl fun i _ => (hcount i).symm
    _ = ∑ j ∈ (Finset.range w.classes.size).map ⟨ρ.cls, ρ.cls_injective⟩, w'.writtenCount j :=
        (Finset.sum_map _ ⟨ρ.cls, ρ.cls_injective⟩ w'.writtenCount).symm
    _ ≤ ∑ j ∈ Finset.range w'.classes.size, w'.writtenCount j := by
        refine Finset.sum_le_sum_of_subset fun j hj => ?_
        obtain ⟨i, hi, rfl⟩ := Finset.mem_map.mp hj
        have hsome := h.classes i
        rw [Array.getElem?_eq_getElem (Finset.mem_range.mp hi)] at hsome
        exact Finset.mem_range.mpr (Array.getElem?_eq_some_iff.mp hsome).1

end World

end TypeProjection.Annotation
