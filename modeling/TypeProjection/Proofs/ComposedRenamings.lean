import TypeProjection.Proofs.GrownWorlds
import TypeProjection.Proofs.RenamedWorlds

/-!
# Renamings one after another

Two renamings, one after the other, give what a world stores the serials that a third one gives, if
they do so for the serials that the world has handed out. Renaming changes nothing about the texts
that a value mentions.
-/

namespace TypeProjection.Annotation

/-! What renamed values mention. -/

namespace Value

variable {ρ : Renaming} {K K' : String → Prop} {v : Value}

theorem children_rename (v : Value) : (v.rename ρ).children = v.children.map (rename ρ) := by
  cases v <;> simp [children]

theorem mentions_rename (v : Value) : (v.rename ρ).Mentions K ↔ v.Mentions K := by
  cases v <;> simp [Mentions]

theorem Homely.rename (hv : v.Homely K) (hK : ∀ m, K m → K' m) : (v.rename ρ).Homely K' := by
  induction hv with
  | @intro v hv _ ih =>
    refine .intro ?_ fun x hx => ?_
    · refine (mentions_rename v).mpr ?_
      cases v with
      | forward text m b => exact hK m hv
      | _ => exact hv
    · rw [children_rename] at hx
      obtain ⟨y, hy, rfl⟩ := List.mem_map.mp hx
      exact ih y hy

theorem IsBase.rename (h : v.IsBase) : (v.rename ρ).IsBase := by
  cases h with
  | cls c => exact .cls _
  | applied n c xs => exact rename_applied ▸ .applied ..
  | generic n => exact .generic n
  | native c xs => exact rename_native ▸ .native ..
  | looseCallable xs => exact rename_looseCallable ▸ .looseCallable _
  | annotated c notes => exact rename_annotated ▸ .annotated ..
  | function m n => exact .function m n

end Value

section Homely

variable {ρ : Renaming} {K K' : String → Prop}

theorem HomelyNames.rename {names : List (String × Value)} (h : HomelyNames K names)
    (hK : ∀ m, K m → K' m) : HomelyNames K' (renamedNames ρ names) := by
  intro e he
  obtain ⟨x, hx, rfl⟩ := List.mem_map.mp he
  exact (h x hx).rename hK

theorem homely_values {vs : List Value} (h : ∀ v ∈ vs, v.Homely K) (hK : ∀ m, K m → K' m) :
    ∀ v ∈ vs.map (Value.rename ρ), v.Homely K' := by
  intro v hv
  obtain ⟨x, hx, rfl⟩ := List.mem_map.mp hv
  exact (h x hx).rename hK

theorem Attribute.Homely.rename {a : Attribute} (h : a.Homely K) (hK : ∀ m, K m → K' m) :
    (a.rename ρ).Homely K' := by
  cases a with
  | value v => exact Value.Homely.rename h hK
  | property g b =>
    cases g with
    | none => trivial
    | some g =>
      refine ⟨hK _ h.1, fun v hv => ?_⟩
      obtain ⟨x, hx, rfl⟩ := Option.map_eq_some_iff.mp hv
      exact (h.2 x hx).rename hK
  | method b => trivial

theorem ClassInfo.Homely.rename {info : ClassInfo} (h : info.Homely K) (hK : ∀ m, K m → K' m) :
    (info.rename ρ).Homely K' where
  module := hK _ h.module
  writtenBases := homely_values h.writtenBases hK
  parameters := homely_values h.parameters hK
  annotations := HomelyNames.rename h.annotations hK
  attributes a ha := by
    obtain ⟨x, hx, rfl⟩ := List.mem_map.mp ha
    exact (h.attributes x hx).rename hK

theorem TypeVariable.Homely.rename {v : TypeVariable} (h : v.Homely K) (hK : ∀ m, K m → K' m) :
    (v.rename ρ).Homely K' where
  module := hK _ h.module
  bounds := by
    have hmap : (v.rename ρ).bound.toList ++ (v.rename ρ).alternatives =
        (v.bound.toList ++ v.alternatives).map (Value.rename ρ) := by
      rw [List.map_append, TypeVariable.rename]
      cases v.bound <;> rfl
    rw [hmap]
    exact homely_values h.bounds hK

end Homely

/-! Renaming twice. -/

/-- One renaming after another gives whatever the world has made the serials of a third one. -/
structure World.Composes (w : World) (ρ σ τ : Renaming) : Prop where
  cls : ∀ i < w.classes.size, σ.cls (ρ.cls i) = τ.cls i
  typeVar : ∀ i < w.typeVars.size, σ.typeVar (ρ.typeVar i) = τ.typeVar i
  paramSpec : ∀ i < w.paramSpecs.size, σ.paramSpec (ρ.paramSpec i) = τ.paramSpec i
  newType : ∀ i < w.newTypes.size, σ.newType (ρ.newType i) = τ.newType i

namespace World.Composes

variable {w : World} {ρ σ τ : Renaming} {v : Value}

section

variable (h : w.Composes ρ σ τ)

include h

theorem ref {c : ClassRef} (hc : w.Valid c) : (c.rename ρ).rename σ = c.rename τ := by
  cases c with
  | library m n => rfl
  | declared i => exact congrArg ClassRef.declared (h.cls i hc)

theorem refs {cs : List ClassRef} (hcs : ∀ c ∈ cs, w.Valid c) :
    (cs.map (ClassRef.rename ρ)).map (ClassRef.rename σ) = cs.map (ClassRef.rename τ) := by
  rw [List.map_map]
  exact List.map_congr_left fun c hc => h.ref (hcs c hc)

theorem value (hv : w.Sound v) : (v.rename ρ).rename σ = v.rename τ := by
  induction hv with
  | @intro v hv _ ih =>
    have hlist : ∀ {xs : List Value}, (∀ x ∈ xs, x ∈ v.children) →
        (xs.map (Value.rename ρ)).map (Value.rename σ) = xs.map (Value.rename τ) := by
      intro xs hxs
      rw [List.map_map]
      exact List.map_congr_left fun x hx => ih x (hxs x hx)
    cases v with
    | list xs | tuple xs | set xs | looseCallable xs | formed n xs | union b xs =>
      have hxs := @hlist xs fun _ hx => hx
      simp only [Value.rename_list, Value.rename_tuple, Value.rename_set, Value.rename_looseCallable,
        Value.rename_formed, Value.rename_union, hxs]
    | applied n c xs =>
      have hxs := @hlist xs fun _ hx => hx
      simp only [Value.rename_applied, hxs, h.ref hv.1]
    | native c xs =>
      have hxs := @hlist xs fun _ hx => hx
      simp only [Value.rename_native, hxs, h.ref hv.1]
    | dict ks vs =>
      have hks := @hlist ks fun _ hx => List.mem_append_left _ hx
      have hvs := @hlist vs fun _ hx => List.mem_append_right _ hx
      simp only [Value.rename_dict, hks, hvs]
    | annotated inner notes =>
      have hnotes := @hlist notes fun _ hx => List.mem_cons_of_mem _ hx
      simp only [Value.rename_annotated, hnotes, ih inner (List.mem_cons_self ..)]
    | initVar inner => simp only [Value.rename_initVar, ih inner (List.mem_cons_self ..)]
    | cls c => exact congrArg Value.cls (h.ref hv)
    | member c n => exact congrArg (Value.member · n) (h.ref hv)
    | typeVar i => exact congrArg Value.typeVar (h.typeVar i hv)
    | paramSpec i => exact congrArg Value.paramSpec (h.paramSpec i hv)
    | newType i => exact congrArg Value.newType (h.newType i hv)
    | _ => rfl

theorem values {vs : List Value} (hvs : ∀ v ∈ vs, w.Sound v) :
    (vs.map (Value.rename ρ)).map (Value.rename σ) = vs.map (Value.rename τ) := by
  rw [List.map_map]
  exact List.map_congr_left fun v hv => h.value (hvs v hv)

theorem names {names : List (String × Value)} (hn : w.SoundNames names) :
    renamedNames σ (renamedNames ρ names) = renamedNames τ names := by
  rw [renamedNames, renamedNames, List.map_map]
  exact List.map_congr_left fun e he => congrArg (Prod.mk e.1) (h.value (hn e he))

theorem entry {a : Attribute} (ha : w.SoundAttribute a) :
    (a.rename ρ).rename σ = a.rename τ := by
  cases a with
  | value v => exact congrArg Attribute.value (h.value ha)
  | property g b =>
    rcases g with _ | ⟨returns, m⟩
    · rfl
    · cases returns with
      | none => rfl
      | some v =>
        simp only [Attribute.rename, Option.map_some, Getter.rename, h.value (ha v rfl)]
  | method b => rfl

theorem entries {attributes : List (String × Attribute)}
    (ha : ∀ a ∈ attributes, w.SoundAttribute a.2) :
    renamedAttributes σ (renamedAttributes ρ attributes) = renamedAttributes τ attributes := by
  rw [renamedAttributes, renamedAttributes, List.map_map]
  exact List.map_congr_left fun e he => congrArg (Prod.mk e.1) (h.entry (ha e he))

theorem info {info : ClassInfo} (hi : w.SoundClass info) (hr : w.Rooted info) :
    (info.rename ρ).rename σ = info.rename τ := by
  simp only [ClassInfo.rename, h.refs hr.bases, h.refs hi.ancestors, h.values hi.writtenBases,
    h.values hi.parameters, h.names hi.annotations, h.entries hi.attributes]

theorem typeVariable {x : TypeVariable} (hx : ∀ t ∈ x.bound.toList ++ x.alternatives, w.Sound t) :
    (x.rename ρ).rename σ = x.rename τ := by
  have halternatives := h.values fun v hv => hx v (List.mem_append_right _ hv)
  have hbound : (x.bound.map (Value.rename ρ)).map (Value.rename σ) =
      x.bound.map (Value.rename τ) := by
    cases hb : x.bound with
    | none => rfl
    | some b =>
      have hsound : w.Sound b :=
        hx b (List.mem_append_left _ (by rw [hb]; exact List.mem_singleton_self b))
      exact congrArg some (h.value hsound)
  simp only [TypeVariable.rename, halternatives, hbound]

theorem namedType {n : NamedType} (hn : w.Sound n.supertype) :
    (n.rename ρ).rename σ = n.rename τ := by
  simp only [NamedType.rename, h.value hn]

end

end World.Composes

end TypeProjection.Annotation
