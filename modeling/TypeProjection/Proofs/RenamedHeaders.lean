import TypeProjection.Definition.Run
import TypeProjection.Proofs.RenamedTypes

/-!
# Headers under other serials

The renamed values of a header stand for renamed bases, and they are refused with the same words.
Renamed bases go together just where the bases do, and their order of attribute lookup is the
renamed one.
-/

namespace TypeProjection.Definition

open Annotation World
open Value (AllHomely allHomely_cons allHomely_nil)

/-- The base with its class renamed. -/
def Base.rename (ρ : Renaming) : Base → Base
  | .cls c => .cls (c.rename ρ)
  | .namedTuple => .namedTuple
  | .typedDict => .typedDict

/-- The header with all that it mentions renamed. -/
def Header.rename (ρ : Renaming) (h : Header) : Header :=
  { h with written := h.written.map (Value.rename ρ), entries := h.entries.map (Base.rename ρ) }

/-- All that a header mentions is homely, and the header itself. -/
structure Header.Homely (K : String → Prop) (h : Header) : Prop where
  module : K h.module
  written : AllHomely K h.written

variable {ρ : Renaming} {K : String → Prop} {w w' : World} {v : Value} {xs all later : List Value}
  {c d : ClassRef} {bases : List ClassRef}

/-- A check that may be left out. -/
theorem sends_check {α β : Type} {g : α → β} {Q : α → Prop} {b : Bool} {x x' : Except Fault Unit}
    (hx : x' = x) {f : Unit → Except Fault α} {f' : Unit → Except Fault β}
    (hf : Sends g Q (f ()) (f' ())) :
    Sends g Q (if b then do let r ← x; f r else f ()) (if b then do let r ← x'; f' r else f' ()) := by
  subst hx
  exact sends_ite (fun _ => (sends_same x').bind fun _ _ => hf) fun _ => hf

/-! Bases. -/

theorem Base.rename_injective : Function.Injective (Base.rename ρ) := by
  intro b b' h
  cases b <;> cases b' <;> first | rfl | cases h | skip
  exact congrArg Base.cls (ClassRef.rename_injective (Base.cls.inj h))

theorem class?_baseRename (b : Base) : (b.rename ρ).class? = b.class?.map (ClassRef.rename ρ) := by
  cases b <;> rfl

@[simp] theorem baseRename_beq (b b' : Base) : (b.rename ρ == b'.rename ρ) = (b == b') := by
  rw [Bool.eq_iff_iff, beq_iff_eq, beq_iff_eq]
  exact Base.rename_injective.eq_iff

theorem contains_baseRename (bs : List Base) (b : Base) :
    (bs.map (Base.rename ρ)).contains (b.rename ρ) = bs.contains b := by
  rw [Bool.eq_iff_iff, List.contains_iff_mem, List.contains_iff_mem]
  exact List.mem_map_of_injective Base.rename_injective

theorem bases_rename (h : Header) :
    (h.rename ρ).bases = h.bases.map (ClassRef.rename ρ) := by
  unfold Header.bases Header.rename
  rw [List.filterMap_map, List.map_filterMap]
  exact List.filterMap_congr fun b _ => class?_baseRename b

theorem effectiveBases_rename (h : Header) :
    (h.rename ρ).effectiveBases = h.effectiveBases.map (ClassRef.rename ρ) := by
  unfold Header.effectiveBases
  rw [bases_rename, List.isEmpty_map]
  split <;> rfl

theorem metaclassOfBase_rename (h : w.Renames ρ K w') (b : Base) :
    metaclassOfBase w' (b.rename ρ) = metaclassOfBase w b := by
  cases b with
  | cls c => exact h.metaclassOf
  | namedTuple => rfl
  | typedDict => rfl

theorem isGenericAlias_rename (v : Value) : isGenericAlias (v.rename ρ) = isGenericAlias v := by
  cases v with
  | union piped xs => cases piped <;> simp [isGenericAlias]
  | _ => simp [isGenericAlias]

theorem isGenericClass_rename (h : w.Renames ρ K w') (v : Value) :
    isGenericClass w' (v.rename ρ) = isGenericClass w v := by
  cases v with
  | cls c => exact h.derives_library
  | _ => simp [isGenericClass]

theorem any_rename {p q : Value → Bool} (hp : ∀ v, p (v.rename ρ) = q v) (xs : List Value) :
    (xs.map (Value.rename ρ)).any p = xs.any q := by
  rw [List.any_map]
  exact Value.any_congr_mem fun v _ => hp v

theorem same_cls_rename (v : Value) (c : ClassRef) :
    (v.rename ρ).same (.cls (c.rename ρ)) = v.same (.cls c) :=
  Value.same_rename v (.cls c)

theorem aliasEntries_rename (h : w.Renames ρ K w') :
    aliasEntries w' (all.map (Value.rename ρ)) (later.map (Value.rename ρ)) (c.rename ρ) =
      (aliasEntries w all later c).map (Base.rename ρ) := by
  unfold aliasEntries
  rw [any_rename fun v => same_cls_rename v c, any_rename fun v => by
    rw [isGenericAlias_rename, isGenericClass_rename h]]
  dsimp only
  split <;> split <;> rfl

theorem genericEntries_rename :
    genericEntries (all.map (Value.rename ρ)) (later.map (Value.rename ρ)) =
      (genericEntries all later).map (Base.rename ρ) := by
  have hprotocol : ∀ v : Value, (v.rename ρ).same (.cls protocolRoot) = v.same (.cls protocolRoot) :=
    fun v => same_cls_rename v protocolRoot
  unfold genericEntries
  rw [any_rename hprotocol, any_rename isGenericAlias_rename]
  split <;> rfl

/-- What a renamed value stands for among bases. -/
theorem sends_replacement (h : w.Renames ρ K w') (hv : v.Homely K) :
    Sends (Option.map (List.map (Base.rename ρ))) (fun _ => True) (replacement w all later v)
      (replacement w' (all.map (Value.rename ρ)) (later.map (Value.rename ρ)) (v.rename ρ)) := by
  have hok : ∀ {x : Option (List Base)} {x' : Option (List Base)},
      x' = x.map (List.map (Base.rename ρ)) →
      Sends (Option.map (List.map (Base.rename ρ))) (fun _ => True) (.ok x) (.ok x') := by
    rintro x _ rfl
    exact sends_ok trivial
  have hrefused : ∀ {x : Fault} {x' : Fault}, x' = x →
      Sends (Option.map (List.map (Base.rename ρ))) (fun _ => True) (.error x) (.error x') := by
    rintro x _ rfl
    exact sends_error
  have hshown := h.shown hv
  have hno : notSubclassable w' (v.rename ρ) = notSubclassable w v := by
    unfold notSubclassable
    rw [hshown]
  have hname : Fault.wrongType ("bases must be types, not " ++ (v.rename ρ).className w') =
      Fault.wrongType ("bases must be types, not " ++ v.className w) := by
    rw [h.className]
  cases v with
  | cls c => exact hok rfl
  | applied n c xs =>
    rw [Value.rename_applied]
    by_cases hn : n = ""
    · subst hn
      rw [replacement, replacement, genericRoot, ClassRef.rename_beq_library,
        genericEntries_rename]
      refine hok ?_
      rw [Option.map_some]
      split <;> rfl
    · rw [replacement.eq_3 _ _ _ _ _ _ hn, replacement.eq_3 _ _ _ _ _ _ hn]
      exact hok (congrArg some (aliasEntries_rename h))
  | «alias» n =>
    refine hok (congrArg some ?_)
    rw [← aliasEntries_rename h, rename_aliasOrigin]
  | native c xs =>
    rw [Value.rename_native]
    exact hok rfl
  | looseCallable xs =>
    rw [Value.rename_looseCallable]
    exact hok rfl
  | annotated inner notes =>
    rw [Value.rename_annotated] at hname ⊢
    cases inner with
    | cls c => exact hok rfl
    | _ => exact hrefused (by simpa using hname)
  | function m n =>
    by_cases htuple : Value.function m n = .function "typing" "NamedTuple"
    · rw [htuple]
      exact hok rfl
    by_cases hdict : Value.function m n = .function "typing" "TypedDict"
    · rw [hdict]
      exact hok rfl
    rw [Value.rename_function] at hname ⊢
    rw [replacement.eq_14 _ _ _ _ (by simp) (by simp) (by simp) (by simp) (by simp) (by simp)
      (by simp) htuple hdict (by simp) (by simp) (by simp) (by simp),
      replacement.eq_14 _ _ _ _ (by simp) (by simp) (by simp) (by simp) (by simp) (by simp)
      (by simp) htuple hdict (by simp) (by simp) (by simp) (by simp)]
    exact hrefused hname
  | form n => exact hrefused hno
  | formed n xs =>
    rw [Value.rename_formed] at hno ⊢
    exact hrefused hno
  | union piped xs =>
    rw [Value.rename_union] at hno hname ⊢
    cases piped
    · exact hrefused hno
    · exact hrefused hname
  | newType i =>
    refine hrefused ?_
    rw [hshown]
  | _ => exact hrefused (by simpa using hname)

/-- What renamed values stand for among bases. -/
theorem sends_entries (h : w.Renames ρ K w') (hxs : AllHomely K xs) :
    Sends (fun r : List Base × Bool => (r.1.map (Base.rename ρ), r.2)) (fun _ => True)
      (entries w all xs) (entries w' (all.map (Value.rename ρ)) (xs.map (Value.rename ρ))) := by
  induction xs with
  | nil => exact sends_ok trivial
  | cons v later ih =>
    obtain ⟨hv, hlater⟩ := allHomely_cons.mp hxs
    rw [List.map_cons, entries, entries]
    refine (sends_replacement h hv).bind fun here _ => (ih hlater).bind fun r _ => ?_
    obtain ⟨rest, changed⟩ := r
    cases here with
    | some bs =>
      dsimp only [Option.map_some]
      rw [← List.map_append]
      exact sends_pure (f := fun r : List Base × Bool => (r.1.map (Base.rename ρ), r.2)) trivial
    | none =>
      have hrest : Sends (fun r : List Base × Bool => (r.1.map (Base.rename ρ), r.2)) (fun _ => True)
          (pure (rest, changed) : Except Fault (List Base × Bool))
          (pure (rest.map (Base.rename ρ), changed)) := sends_ok trivial
      cases v with
      | cls c =>
        exact sends_ok (f := fun r : List Base × Bool => (r.1.map (Base.rename ρ), r.2)) trivial
      | _ => simpa using hrest

/-! Orders. -/

theorem layoutOf_rename (h : w.Renames ρ K w') (c : ClassRef) :
    layoutOf w' (c.rename ρ) = (layoutOf w c).map (ClassRef.rename ρ) := by
  have hlibrary : ∀ c ∈ layoutClasses, isLibrary c = true := by decide
  unfold layoutOf
  rw [h.ancestorsOf, List.find?_map]
  congr 2
  funext d
  exact contains_rename_library hlibrary d

theorem layoutsFit_rename (h : w.Renames ρ K w') (c d : ClassRef) :
    layoutsFit w' (c.rename ρ) (d.rename ρ) = layoutsFit w c d := by
  unfold layoutsFit
  rw [layoutOf_rename h, layoutOf_rename h]
  cases layoutOf w c with
  | none => rfl
  | some a =>
    cases layoutOf w d with
    | none => rfl
    | some b => simp only [Option.map_some, h.derives]

theorem finalName?_rename (c : ClassRef) : finalName? (c.rename ρ) = finalName? c := by
  cases c <;> rfl

theorem repeated?_rename (cs : List ClassRef) :
    repeated? (cs.map (ClassRef.rename ρ)) = (repeated? cs).map (ClassRef.rename ρ) := by
  induction cs with
  | nil => rfl
  | cons c cs ih =>
    rw [List.map_cons, repeated?, repeated?, contains_rename, ih]
    split <;> rfl

/-- Renamed bases are put in the renamed order. -/
theorem sends_lookupOrder (h : w.Renames ρ K w') (bases : List ClassRef) :
    Sends (List.map (ClassRef.rename ρ)) (fun _ => True) (lookupOrder w bases)
      (lookupOrder w' (bases.map (ClassRef.rename ρ))) := by
  have hfinal : (bases.map (ClassRef.rename ρ)).findSome? finalName? = bases.findSome? finalName? := by
    rw [List.findSome?_map]
    exact congrArg (fun f => bases.findSome? f) (funext finalName?_rename)
  have hlayouts : ((bases.map (ClassRef.rename ρ)).any fun c =>
      (bases.map (ClassRef.rename ρ)).any fun d => !layoutsFit w' c d) =
      bases.any fun c => bases.any fun d => !layoutsFit w c d := by
    simp only [List.any_map, Function.comp_def, layoutsFit_rename h]
  have horders : (bases.map (ClassRef.rename ρ)).map w'.ancestorsOf =
      (bases.map w.ancestorsOf).map (List.map (ClassRef.rename ρ)) := by
    rw [List.map_map, List.map_map]
    exact List.map_congr_left fun c _ => h.ancestorsOf
  have hnames : (bases.map (ClassRef.rename ρ)).map w'.nameOf = bases.map w.nameOf := by
    rw [List.map_map]
    exact List.map_congr_left fun c _ => h.nameOf
  unfold lookupOrder
  rw [hfinal, repeated?_rename, hlayouts, horders, orderOf_rename, hnames]
  extract_lets merge checkRepeated merge' checkRepeated'
  have hmerge : Sends (List.map (ClassRef.rename ρ)) (fun _ => True) (merge ()) (merge' ()) := by
    refine sends_ite (fun _ => sends_error) fun _ => ?_
    cases World.orderOf? bases (bases.map w.ancestorsOf) with
    | none => exact sends_error
    | some order => exact sends_ok trivial
  cases bases.findSome? finalName? with
  | some name => exact sends_error
  | none =>
    unfold checkRepeated checkRepeated'
    cases repeated? bases with
    | some c =>
      dsimp only [Option.map_some]
      rw [h.nameOf]
      exact sends_error
    | none => exact hmerge

/-- The header that renamed values make. -/
theorem sends_headerOf (h : w.Renames ρ K w') {s : Setting} (hm : K s.module) {p p' : Spot}
    (hp : p'.path = p.path) {name : String} (hxs : AllHomely K xs) {words : List (String × Value)} :
    Sends (Header.rename ρ) (Header.Homely K) (headerOf w s p name xs words)
      (headerOf w' s p' name (xs.map (Value.rename ρ)) (renamedNames ρ words)) := by
  have hmetaclass : ∀ v : Value, metaclassNamed? (v.rename ρ) = metaclassNamed? v := by
    intro v
    cases v with
    | cls c => cases c <;> rfl
    | _ => simp [metaclassNamed?]
  have hasked : (((words.lookup "metaclass").map (Value.rename ρ)).bind metaclassNamed?) =
      (words.lookup "metaclass").bind metaclassNamed? := by
    cases words.lookup "metaclass" with
    | none => rfl
    | some v => exact hmetaclass v
  unfold headerOf
  refine (sends_entries h hxs).bind fun r _ => ?_
  obtain ⟨bases, replaced⟩ := r
  have hclasses : (bases.map (Base.rename ρ)).map (metaclassOfBase w') =
      bases.map (metaclassOfBase w) := by
    rw [List.map_map]
    exact List.map_congr_left fun b _ => metaclassOfBase_rename h b
  dsimp only
  rw [lookup_renamedNames, hasked, hclasses]
  refine (sends_same _).bind fun metaclass _ => ?_
  have hpath : p'.pathOf name = p.pathOf name := by
    unfold Spot.pathOf
    rw [hp]
  have hkeys : (renamedNames ρ words).map (·.1) = words.map (·.1) := by
    rw [renamedNames, List.map_map]
    rfl
  rw [hpath, hkeys]
  exact sends_pure (f := Header.rename ρ) ⟨hm, hxs⟩

end TypeProjection.Definition
