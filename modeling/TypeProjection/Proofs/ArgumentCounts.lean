import TypeProjection.Proofs.HeritageNames
import TypeProjection.Proofs.LoadedWorlds

/-!
# How many arguments a reference has

The number of type parameters in a declaration comes from its class, and the number of arguments in
a reference comes from the value that stands for the type. They agree where the class takes an
argument for each of its parameters, because no expression makes a value with another number of
arguments. A class that keeps whatever arguments it is given has no such bond: it can be referred to
with arguments although its declaration has no parameters.
-/

namespace TypeProjection

namespace Universe

variable {τ : Type} {U : Universe τ} {K : τ → Prop} {o : Options τ} {n : Nat} {t u k : τ}

/-- How many type parameters the declaration of a key has. -/
def parameterCount (U : Universe τ) (k : τ) : Nat :=
  if U.isDefinition k then (U.arguments k).length else 0

/-- A constructed type has an argument for each type parameter of its definition. -/
def Saturated (U : Universe τ) (t : τ) : Prop :=
  U.isConstructed t = true → (U.arguments t).length = U.parameterCount (U.definition t)

theorem arity_of_saturated (h : U.Saturated t) : U.arity t = U.parameterCount (U.normal t) := by
  unfold arity normal
  cases hc : U.isConstructed t with
  | true =>
    rw [Bool.true_or, if_pos rfl, if_pos rfl]
    exact h hc
  | false =>
    rw [Bool.false_or, if_neg Bool.false_ne_true]
    rfl

/-- A name with its arguments, which are left out if there are none. -/
def appliedText (name : String) (arguments : List String) : String :=
  if arguments.isEmpty then name else name ++ argumentText arguments

/-- The reference to a declared structure has as many arguments as its arity says. -/
theorem reading_arity (hU : U.Filled) (hs : U.shape o t = .declared) (hk : U.skipped o t = false)
    {s : String} (h : U.reading o n t = some s) :
    ∃ arguments, arguments.length = U.arity t ∧
      s = appliedText (o.rename (U.name (U.normal t))) arguments := by
  cases n with
  | zero => cases h
  | succ n =>
    simp only [reading, readingFrom, hs, hk, Bool.false_eq_true, ↓reduceIte] at h
    unfold arity
    split_ifs at h with hc hd
    · obtain ⟨items, hitems, rfl⟩ := Option.map_eq_some_iff.mp h
      have hlength := (mapM_eq_some hitems).length_eq
      refine ⟨items, by rw [hc, Bool.true_or, if_pos rfl, hlength], ?_⟩
      have hne : items.isEmpty = false := by
        rw [List.isEmpty_eq_false_iff, ← List.length_pos_iff_ne_nil, ← hlength,
          List.length_pos_iff_ne_nil]
        exact hU.constructed t hc
      rw [appliedText, hne]
      rfl
    · cases h
      have hc' := Bool.eq_false_iff.mpr hc
      refine ⟨(U.arguments t).map fun _ => fallbackReference, ?_, ?_⟩
      · rw [hc', hd, if_pos (by decide), List.length_map]
      have hne := hU.definition t hc' hd
      rw [appliedText, List.isEmpty_map, List.isEmpty_eq_false_iff.mpr hne]
      rfl
    · cases h
      refine ⟨[], ?_, rfl⟩
      rw [Bool.eq_false_iff.mpr hc, Bool.eq_false_iff.mpr hd]
      rfl

theorem Alike.parameterCount {x y : τ} (h : U.Alike x y) :
    U.parameterCount x = U.parameterCount y := by
  unfold Universe.parameterCount
  rw [h.isDefinition, h.arguments]

variable [BEq τ]

theorem length_typeParameters {d : TypeDeclaration τ} (h : U.declaration o n k = some d) :
    d.typeParameters.length = U.parameterCount k := by
  obtain ⟨_, _, h⟩ := Option.bind_eq_some_iff.mp h
  obtain ⟨_, _, h⟩ := Option.bind_eq_some_iff.mp h
  obtain ⟨parameters, hparameters, h⟩ := Option.bind_eq_some_iff.mp h
  obtain ⟨_, _, h⟩ := Option.bind_eq_some_iff.mp h
  have hd : d.typeParameters = parameters := by
    rw [← Option.some_inj.mp h]
    rfl
  rw [hd]
  unfold parameterTexts at hparameters
  unfold parameterCount
  split at hparameters
  · rw [if_pos ‹_›]
    exact (mapM_eq_some hparameters).length_eq.symm
  · rw [if_neg ‹_›]
    cases hparameters
    rfl

/-- The declaration of a structure to which a declaration refers has as many type parameters as the
reference has arguments. -/
theorem declared_arity (hU : U.Coherent K) {roots : List τ} {r : Registry τ}
    (h : U.collect o roots = some r) {d : TypeDeclaration τ} (hd : d ∈ r.types)
    (ht : U.Refers o d.source t) (hu : U.Occurs o t u) (hs : U.shape o u = .declared)
    (hk : U.skipped o u = false) (hsaturated : U.Saturated u) :
    ∃ e ∈ r.types, (e.source == U.normal u) = true ∧ e.name = o.rename (U.name (U.normal u)) ∧
      e.typeParameters.length = U.arity u := by
  have hpopulated := populated_of_collect hU h
  have hneeds := ht.needs (hu.meets (.type hs hk))
  have hrequired := Reach.step (hpopulated.typesRequired d hd) not_false hneeds
  obtain ⟨e, he, heu⟩ := hpopulated.typesFound _ hrequired
  have halike := hU.alike _ _ (hU.structural u (isStructural_of_shape hs)) heu
  have hrecord := hpopulated.records e he
  refine ⟨e, he, heu, ?_, ?_⟩
  · rw [(declaration_source_name hrecord).2, halike.name]
  · rw [length_typeParameters hrecord, halike.parameterCount, arity_of_saturated hsaturated]

end Universe

/-- The words of a registry, where a declared type stands with as many arguments as its declaration
has type parameters. -/
def Registry.exactVocabulary {τ : Type} (U : Universe τ) (r : Registry τ) : Vocabulary :=
  { r.vocabulary U r.types with
    type := fun s n => ∃ d ∈ r.types, d.name = s ∧ d.typeParameters.length = n }

namespace Universe

variable {τ : Type} [BEq τ] {U : Universe τ} {K : τ → Prop} {o : Options τ} {r : Registry τ}

/-- The references of a declaration are generated with exact numbers of arguments if the types that
occur in them are saturated. -/
theorem worded_exactly (hU : U.Coherent K) (hfilled : U.Filled) {roots : List τ}
    (h : U.collect o roots = some r) {d : TypeDeclaration τ} (hd : d ∈ r.types)
    (hsaturated : ∀ t u, U.Refers o d.source t → U.Occurs o t u → U.shape o u = .declared →
      U.skipped o u = false → U.Saturated u) :
    U.Worded o (r.exactVocabulary U) d := by
  have hpopulated := populated_of_collect hU h
  have hr : U.Ready o r := (serves_collect hU h).ready (ready_fresh U o)
  refine worded_of_record (hpopulated.records d hd) fun t s ht hread => ?_
  refine generates_reading hfilled (fun u hu => ?_) hread
  have hadmits := admits_of_has hU hr (fun i hi => has_of_needs hU h hd (ht.needs hi)) hu
  unfold Admits at hadmits ⊢
  cases hs : U.shape o u with
  | declared =>
    intro hk
    obtain ⟨e, he, -, hname, hcount⟩ :=
      declared_arity hU h hd ht hu hs hk (hsaturated t u ht hu hs hk)
    exact ⟨e, he, hname, hcount⟩
  | parameter =>
    rw [hs] at hadmits
    exact hadmits
  | overridden reference =>
    rw [hs] at hadmits
    exact hadmits
  | enumeration =>
    rw [hs] at hadmits
    exact hadmits
  | _ => trivial

end Universe

/-! The types to which declarations of a world refer. -/

namespace Annotation.World

open Universe

variable {w : World} {v : Value} {xs : List Value} {o : Options Value}

theorem sound_describe (hw : w.Closed) (hv : w.Sound v) : w.Sound (w.describe v) := by
  have hfrom : ∀ n, ∀ v, w.Sound v → w.Sound (w.unwrapFrom n v) := by
    intro n
    induction n with
    | zero => exact fun v hv => sound_peel hv
    | succ n ih =>
      intro v hv
      have hpeel := sound_peel hv
      unfold unwrapFrom
      split
      · split
        · next t ht => exact ih _ (hw.supertypes ht)
        · next i he _ _ =>
          rw [he] at hpeel
          exact hpeel
      · exact hpeel
  exact hfrom _ v hv

theorem sound_arguments (hv : w.Sound v) : ∀ x ∈ v.arguments, w.Sound x := by
  have hgrouped : ∀ xs : List Value, (∀ x ∈ xs, w.Sound x) →
      ∀ x ∈ Value.arguments.grouped xs, w.Sound x := by
    intro xs hxs
    refine List.forall_mem_cons.mpr ⟨sound_list.mpr fun x hx => ?_, fun x hx => ?_⟩
    · exact hxs x (List.dropLast_subset _ hx)
    · exact hxs x (List.mem_of_getLast? (Option.mem_toList.mp hx))
  unfold Value.arguments
  split
  · have hxs := (sound_applied.mp hv).2
    split
    · exact hgrouped _ hxs
    · exact hxs
  · have hxs := (sound_native.mp hv).2
    split
    · exact hgrouped _ hxs
    · exact hxs
  · have hxs := sound_looseCallable.mp hv
    split
    · exact hgrouped _ hxs
    · exact hxs
  · exact sound_formed.mp hv
  · exact sound_union.mp hv
  · exact fun _ h => (List.not_mem_nil h).elim

theorem sound_parametersOf (hw : w.Closed) (c : ClassRef) : ∀ x ∈ w.parametersOf c, w.Sound x := by
  cases c with
  | library m n =>
    have hlibrary : ∀ i, i < 9 → w.Sound (.typeVar i) := fun i hi =>
      sound_typeVar.mpr (Nat.lt_of_lt_of_le hi hw.library)
    change ∀ x ∈ libraryParameters (.library m n), w.Sound x
    unfold libraryParameters
    split
    · exact List.forall_mem_singleton.mpr (hlibrary 1 (by decide))
    · exact List.forall_mem_singleton.mpr (hlibrary 1 (by decide))
    · exact List.forall_mem_singleton.mpr (hlibrary 0 (by decide))
    · exact fun _ h => (List.not_mem_nil h).elim
  | declared i =>
    change ∀ x ∈ (w.classes[i]?.map ClassInfo.parameters).getD [], w.Sound x
    cases hi : w.classes[i]? with
    | none => exact fun _ h => (List.not_mem_nil h).elim
    | some info => exact (hw.classes hi).parameters

theorem fills_io {x : Value} (hx : w.Sound x) :
    w.Sound (.applied "" (.library "typing" "IO") [x]) :=
  sound_applied.mpr ⟨⟨valid_library, fun _ _ => rfl⟩, List.forall_mem_singleton.mpr hx⟩

theorem sound_writtenBasesOf (hw : w.Closed) (c : ClassRef) :
    ∀ x ∈ w.writtenBasesOf c, w.Sound x := by
  have hbuiltin : ∀ n, w.Sound (.cls (builtin n)) := fun n => sound_cls.mpr valid_library
  unfold writtenBasesOf
  split
  · exact List.forall_mem_singleton.mpr (fills_io (hbuiltin _))
  · exact List.forall_mem_singleton.mpr (fills_io (hbuiltin _))
  · intro x hx
    obtain ⟨b, hb, rfl⟩ := List.mem_map.mp hx
    have hlibrary := isLibrary_of_base hb
    cases b with
    | library m n => exact sound_cls.mpr valid_library
    | declared i => exact Bool.noConfusion hlibrary
  · next i =>
    cases hi : w.classes[i]? with
    | none => exact fun _ h => (List.not_mem_nil h).elim
    | some info => exact (hw.classes hi).writtenBases

theorem sound_supertypesOf (hw : w.Closed) : ∀ x ∈ w.supertypesOf v, w.Sound x := by
  unfold supertypesOf
  split
  · exact fun _ h => (List.not_mem_nil h).elim
  · intro x hx
    obtain ⟨b, hb, rfl⟩ := List.mem_map.mp hx
    exact sound_describe hw (sound_writtenBasesOf hw _ b (List.mem_filter.mp hb).1)

theorem sound_noNames : w.SoundNames [] := fun _ h => (List.not_mem_nil h).elim

theorem sound_of_parameter (hw : w.Closed) {p : TypeVariable} (h : w.parameter? v = some p) :
    ∀ t ∈ p.bound.toList ++ p.alternatives, w.Sound t := by
  cases v with
  | typeVar i => exact hw.bounds h
  | _ => cases h

theorem sound_boundOf (hw : w.Closed) : ∀ x ∈ (w.boundOf v).1, w.Sound x := by
  unfold boundOf
  split
  · exact fun _ h => (List.not_mem_nil h).elim
  split
  · exact fun _ h => (List.not_mem_nil h).elim
  · next p hp _ b hb =>
    have hbound := sound_of_parameter hw hp b
      (List.mem_append_left _ (Option.mem_toList.mpr hb))
    exact List.forall_mem_singleton.mpr
      (sound_describe hw (sound_annotationType hw sound_noNames hbound))

theorem sound_alternativesOf (hw : w.Closed) : ∀ x ∈ (w.alternativesOf v).1, w.Sound x := by
  unfold alternativesOf
  split
  · exact fun _ h => (List.not_mem_nil h).elim
  · next p hp =>
    intro x hx
    simp only [List.mem_map] at hx
    obtain ⟨_, ⟨a, ha, rfl⟩, rfl⟩ := hx
    have halternative := sound_of_parameter hw hp a (List.mem_append_right _ ha)
    exact sound_describe hw (sound_annotationType hw sound_noNames halternative)

theorem sound_typeMembers (hw : w.Closed) : ∀ m ∈ w.typeMembers v, w.Sound m.2 := by
  unfold typeMembers
  split
  · exact fun _ h => (List.not_mem_nil h).elim
  · next c _ =>
    have hnames := sound_classNames hw c
    extract_lets fields
    intro m hm
    obtain ⟨f, hf, rfl⟩ := List.mem_map.mp hm
    refine sound_describe hw ?_
    rcases List.mem_append.mp hf with hf | hf
    · obtain ⟨a, ha, rfl⟩ := List.mem_map.mp (List.mem_filter.mp hf).1
      have hsound := sound_annotationsOf hw c a (List.mem_filter.mp ha).1
      exact sound_annotationType hw hnames hsound
    · obtain ⟨a, ha, hf⟩ := List.mem_filterMap.mp hf
      have hsound := sound_attributesOf hw a ha
      split at hf
      · next g b he =>
        rw [he] at hsound
        split at hf
        · cases hf
        · cases hf
          refine sound_annotationType hw sound_noNames ?_
          cases hreturns : g.returns with
          | none => exact sound_any
          | some v => exact hsound v hreturns
      · cases hf

/-- The types to which a declaration refers are sound. -/
theorem sound_of_refers (hw : w.Closed) {k t : Value} (h : w.types.Refers o k t) : w.Sound t := by
  have hsupertypes := sound_supertypesOf hw (v := k)
  have hbase : ∀ b, w.baseOf k = some b → w.Sound b := by
    intro b hb
    unfold baseOf at hb
    split at hb
    · cases hb
    · exact hsupertypes b (List.mem_of_find?_eq_some hb)
  have hinterfaces : ∀ t ∈ w.interfacesOf k, w.Sound t := by
    unfold interfacesOf
    split
    · exact hsupertypes
    · exact fun t ht => hsupertypes t (List.mem_filter.mp ht).1
  cases h with
  | base hb => exact hbase t (Option.filter_eq_some_iff.mp hb).1
  | interface hs ht =>
    obtain ⟨implied, -, rfl⟩ := Option.map_eq_some_iff.mp hs
    exact hinterfaces t (mem_survivingFrom ht).1
  | bound _ _ hb => exact sound_boundOf hw t (List.mem_filter.mp hb).1
  | alternative _ _ ha => exact sound_alternativesOf hw t ha
  | member hm => exact sound_typeMembers hw _ hm

theorem sound_elementOf (hw : w.Closed) (hv : w.Sound v) {e : Value} (h : w.elementOf v = some e) :
    w.Sound e := by
  have hfirst : w.Sound (w.describe ((v.arguments.head?).getD Value.any)) := by
    refine sound_describe hw ?_
    cases he : v.arguments.head? with
    | none => exact sound_any
    | some x => exact sound_arguments hv x (List.mem_of_head? he)
  unfold elementOf at h
  split at h
  · cases h
  extract_lets first at h
  split at h
  · exact Option.some_inj.mp h ▸ hfirst
  split at h
  · exact Option.some_inj.mp h ▸ hfirst
  · cases h

theorem sound_keyValueOf (hw : w.Closed) (hv : w.Sound v) {k e : Value}
    (h : w.keyValueOf v = some (k, e)) : w.Sound k ∧ w.Sound e := by
  have hat : ∀ i : Nat, w.Sound (w.describe ((v.arguments[i]?).getD Value.any)) := by
    intro i
    refine sound_describe hw ?_
    cases he : v.arguments[i]? with
    | none => exact sound_any
    | some x => exact sound_arguments hv x (List.mem_of_getElem? he)
  unfold keyValueOf at h
  split at h
  · cases h
  split at h
  · cases h
    exact ⟨hat 0, hat 1⟩
  · cases h

theorem sound_described (hw : w.Closed) (hxs : ∀ x ∈ xs, w.Sound x) :
    ∀ x ∈ xs.map w.describe, w.Sound x := by
  intro x hx
  obtain ⟨y, hy, rfl⟩ := List.mem_map.mp hx
  exact sound_describe hw (hxs y hy)

theorem sound_part (hw : w.Closed) {t p : Value} (ht : w.Sound t)
    (hp : p ∈ w.types.parts o t) : w.Sound p := by
  have harguments := sound_described hw (sound_arguments ht)
  have hfits := w.types.shape_fits o t
  unfold parts at hp
  cases hs : w.types.shape o t with
  | union ts =>
    rw [hs] at hp hfits
    change ts = w.alternativesOfUnion t at hfits
    subst hfits
    cases t with
    | union piped members => exact sound_described hw (sound_union.mp ht) p hp
    | _ => exact (List.not_mem_nil hp).elim
  | sequence e =>
    rw [hs] at hp hfits
    cases List.mem_singleton.mp hp
    exact sound_elementOf hw ht hfits
  | mapping k v =>
    rw [hs] at hp hfits
    obtain ⟨hk, hv⟩ := sound_keyValueOf hw ht hfits
    exact List.forall_mem_cons.mpr ⟨hk, List.forall_mem_singleton.mpr hv⟩ p hp
  | tuple ts =>
    rw [hs] at hp hfits
    change w.tupleOf t = some ts at hfits
    unfold tupleOf at hfits
    split at hfits
    · cases hfits
      exact harguments p hp
    · cases hfits
  | declared =>
    rw [hs] at hp
    dsimp only at hp
    split at hp
    · next hcond =>
      change p ∈ (if t.isConstructed then _ else _) at hp
      have hc : t.isConstructed = true := (Bool.and_eq_true_iff.mp hcond).2
      rw [if_pos hc] at hp
      exact harguments p hp
    · exact (List.not_mem_nil hp).elim
  | _ =>
    rw [hs] at hp
    exact (List.not_mem_nil hp).elim

/-- What occurs in a sound type is sound. -/
theorem sound_of_occurs (hw : w.Closed) {t u : Value} (ht : w.Sound t)
    (h : w.types.Occurs o t u) : w.Sound u := by
  induction h with
  | self => exact ht
  | part hp _ ih => exact ih (sound_part hw ht hp)

/-- The declaration of a class has a type parameter for each one of the class. -/
theorem parameterCount_cls {c : ClassRef} (hc : w.Declarable c) :
    w.types.parameterCount (.cls c) = (w.parametersOf c).length := by
  have hroot : (c == genericRoot) = false := by
    rw [beq_eq_false_iff_ne]
    rintro rfl
    exact Bool.noConfusion (show true = false from hc)
  have hparameters : w.declaredParameters (.cls c) = w.parametersOf c := by
    rw [declaredParameters, hroot]
    rfl
  have hplain : (Value.cls c).isConstructed = false := by
    rw [Value.isConstructed, Value.origin?, hroot]
    rfl
  change (if !(w.declaredParameters (.cls c)).isEmpty then
    (if (Value.cls c).isConstructed then _
      else (w.declaredParameters (.cls c)).map w.describe).length else 0) = _
  rw [hplain, hparameters, if_neg Bool.false_ne_true, List.length_map]
  cases w.parametersOf c with
  | nil => rfl
  | cons x xs => rfl

/-- A sound structure has an argument for each type parameter of its class, if that is how the class
takes arguments. -/
theorem saturated_of_sound (hv : w.Sound v) (hs : w.isStructuralType v = true)
    (hg : ∀ c, v.class? = some c → w.subscriptionOf c = some .generic) :
    w.types.Saturated v := by
  obtain ⟨c, hc, hd⟩ := exists_declarable hs
  intro hconstructed
  change v.isConstructed = true at hconstructed
  change (if v.isConstructed then v.arguments.map w.describe else _).length =
    w.types.parameterCount (definitionOf v)
  rw [definitionOf, if_pos hconstructed, if_pos hconstructed, List.length_map, hc]
  change v.arguments.length = w.types.parameterCount (.cls c)
  rw [parameterCount_cls hd]
  cases v with
  | applied n d xs =>
    cases hc
    have hroot : isGenericRoot c = false := by
      rw [← Bool.not_eq_true]
      intro h
      simp only [isGenericRoot, Bool.or_eq_true, beq_iff_eq] at h
      rcases h with (rfl | rfl) | rfl <;> exact Bool.noConfusion (show true = false from hd)
    rw [Value.arguments, hd.not_isFlatCallable, if_neg Bool.false_ne_true]
    exact (sound_applied.mp hv).1.2 (hg c rfl) hroot
  | native d xs =>
    cases hc
    exact ((sound_native.mp hv).1.2 (hg c rfl)).elim
  | looseCallable xs =>
    cases hc
    exact Bool.noConfusion (show true = false from hd)
  | union piped xs =>
    cases piped with
    | false => cases hc
    | true =>
      cases hc
      exact Bool.noConfusion (show true = false from hd)
  | formed n xs => cases hc
  | «alias» n => exact Bool.noConfusion hconstructed
  | cls d =>
    unfold Value.isConstructed at hconstructed
    split at hconstructed
    · exact Bool.noConfusion hconstructed
    · exact Bool.noConfusion hconstructed
  | _ => exact Bool.noConfusion hconstructed

/-- If the type has arguments, then its class takes one for each type parameter. -/
def TakesPerParameter (w : World) (v : Value) : Prop :=
  v.isConstructed = true → ∀ c, v.class? = some c → w.subscriptionOf c = some .generic

theorem saturated_of_takes (hv : w.Sound v) (hs : w.isStructuralType v = true)
    (hg : w.TakesPerParameter v) : w.types.Saturated v :=
  fun hc => saturated_of_sound hv hs (hg hc) hc

/-- Wherever a declaration refers to a declared type that takes its arguments by its type
parameters, the reference has as many arguments as the declaration of that type has type
parameters, and no list of arguments if it has none. If all the types to which it refers are such
types, then its references are generated with these numbers of arguments. -/
theorem arguments_match_parameters (hw : w.Loaded) {roots : List Value} {r : Registry Value}
    (h : w.types.collect o roots = some r) {d : TypeDeclaration Value} (hd : d ∈ r.types) :
    (∀ t u, w.types.Refers o d.source t → w.types.Occurs o t u → w.types.shape o u = .declared →
      w.types.skipped o u = false → w.TakesPerParameter u →
      ∃ e ∈ r.types, (e.source == w.types.normal u) = true ∧
        ∀ n s, w.types.reading o n u = some s → ∃ arguments : List String,
          arguments.length = e.typeParameters.length ∧ s = appliedText e.name arguments) ∧
    ((∀ t u, w.types.Refers o d.source t → w.types.Occurs o t u → w.types.shape o u = .declared →
      w.types.skipped o u = false → w.TakesPerParameter u) →
      w.types.Worded o (r.exactVocabulary w.types) d) := by
  have hclosed := closed_of_loaded hw
  have hsaturated : ∀ t u, w.types.Refers o d.source t → w.types.Occurs o t u →
      w.types.shape o u = .declared → w.TakesPerParameter u → w.types.Saturated u := by
    intro t u ht hu hs hg
    have hsound := sound_of_occurs hclosed (sound_of_refers hclosed ht) hu
    exact saturated_of_takes hsound (isStructural_of_shape hs) hg
  constructor
  · intro t u ht hu hs hk hg
    obtain ⟨e, he, heu, hname, hcount⟩ := declared_arity (types_coherent w) h hd ht hu hs hk
      (hsaturated t u ht hu hs hg)
    refine ⟨e, he, heu, fun n s hread => ?_⟩
    obtain ⟨arguments, hlength, rfl⟩ := reading_arity (types_filled w) hs hk hread
    exact ⟨arguments, hlength.trans hcount.symm, by rw [hname]⟩
  · intro hall
    exact worded_exactly (types_coherent w) (types_filled w) h hd fun t u ht hu hs hk =>
      hsaturated t u ht hu hs (hall t u ht hu hs hk)

/-- A generic class, and a class that holds one of it. -/
def crateModule : Definition.Source where
  postponed := false
  definitions := [
    .typeVar ⟨"T", "T", [], none, .invariant, false⟩,
    .cls (.mk "Crate" ["Generic[T]"] [] "" [.field "item" "T" none]),
    .cls (.mk "Depot" [] [] "" [.field "crate" "Crate[int]" none])]

def crates : World := (runAlone initial "models" crateModule).1

/-- Which members of a declared type are made of a class and arguments, and are neither replaced nor
skipped, and of which class are they? -/
def memberAnswers (w : World) (d : TypeDeclaration Value) : List (Bool × Option ClassRef) :=
  (w.typeMembers d.source).map fun m =>
    (m.2.isConstructed && w.isStructuralType m.2 &&
      (defaultOverrides.lookup (w.displayName m.2)).isNone && !w.types.skipped Options.default m.2,
    m.2.class?)

theorem memberAnswers_crates :
    (crates.types.collect Options.default [.cls (.declared 1)]).map
        (fun r => r.types.map fun d => (d.name, memberAnswers crates d)) =
      some [("Depot", [(true, some (.declared 0))]), ("Crate", [(false, none)])] := by
  decide +kernel

theorem arguments_match_parameters_crates :
    ∃ r, crates.types.collect Options.default [.cls (.declared 1)] = some r ∧
      ∃ d ∈ r.types, ∃ u, crates.types.Refers Options.default d.source u ∧
        u.isConstructed = true ∧ crates.TakesPerParameter u ∧
        ∃ e ∈ r.types, (e.source == crates.types.normal u) = true ∧
          ∀ n s, crates.types.reading Options.default n u = some s →
            ∃ arguments : List String, arguments.length = e.typeParameters.length ∧
              s = appliedText e.name arguments := by
  obtain ⟨r, hr, htexts⟩ := Option.map_eq_some_iff.mp memberAnswers_crates
  obtain ⟨d, rest, htypes, hd, -⟩ := List.map_eq_cons_iff.mp htexts
  obtain ⟨m, _, hmembers, hm, -⟩ := List.map_eq_cons_iff.mp (congrArg Prod.snd hd)
  simp only [Prod.mk.injEq, Bool.and_eq_true, Option.isNone_iff_eq_none,
    Bool.not_eq_true'] at hm
  obtain ⟨⟨⟨⟨hconstructed, hstructural⟩, hoverride⟩, hskip⟩, hclass⟩ := hm
  have hmem : d ∈ r.types := htypes ▸ List.mem_cons_self ..
  have hrefers : crates.types.Refers Options.default d.source m.2 :=
    .member (show m ∈ crates.typeMembers d.source from hmembers ▸ List.mem_cons_self ..)
  have htakes : crates.TakesPerParameter m.2 := by
    intro _ c hc
    cases hclass.symm.trans hc
    decide +kernel
  have hshape : crates.types.shape Options.default m.2 = .declared := by
    have hkept : (Options.default (τ := Value)).overrides.lookup
        (crates.types.displayName m.2) = none := hoverride
    rw [shape_of_isStructural (types_separated crates) hstructural, hkept]
  have hloaded : crates.Loaded := .alone "models" crateModule .initial
  exact ⟨r, hr, d, hmem, m.2, hrefers, hconstructed, htakes,
    (arguments_match_parameters hloaded hr hmem).1 m.2 m.2 hrefers .self hshape hskip htakes⟩

/-- A class that extends the class of lists, and one that holds a list of it with an argument. -/
def namesModule : Definition.Source where
  postponed := false
  definitions := [
    .cls (.mk "Names" ["list"] [] "" [.field "label" "str" none]),
    .cls (.mk "Register" [] [] "" [.field "names" "Names[int]" none])]

def registers : World := (runAlone initial "models" namesModule).1

/-- A member can refer with an argument to a type whose declaration has no type parameters. -/
theorem arguments_not_always_matched :
    ¬ ∀ (w : World), w.Loaded → ∀ (o : Options Value) (roots : List Value) (r : Registry Value),
      w.types.collect o roots = some r → ∀ d ∈ r.types, ∀ m ∈ d.members, ∀ e ∈ r.types,
        ∀ arguments : List String, m.reference = e.name ++ argumentText arguments →
          arguments.length = e.typeParameters.length := by
  intro hall
  have hrun : (registers.types.collect Options.default [.cls (.declared 1)]).map (fun r =>
      r.types.map fun d => (d.name, d.typeParameters, d.members.map (·.reference))) =
      some [("Register", [], ["Names<number>"]), ("Names", [], ["string"])] := by
    decide +kernel
  obtain ⟨r, hr, htexts⟩ := Option.map_eq_some_iff.mp hrun
  obtain ⟨d, rest, htypes, hd, hrest⟩ := List.map_eq_cons_iff.mp htexts
  obtain ⟨e, _, hetypes, he, -⟩ := List.map_eq_cons_iff.mp hrest
  simp only [Prod.mk.injEq] at hd he
  obtain ⟨m, _, hmembers, hm, -⟩ := List.map_eq_cons_iff.mp hd.2.2
  have hcount := hall registers (.alone "models" namesModule .initial) Options.default _ r hr
    d (by simp [htypes]) m (by simp [hmembers]) e (by simp [htypes, hetypes]) ["number"]
    (by rw [hm, he.1]; decide)
  rw [he.2.1] at hcount
  exact Nat.noConfusion hcount

end Annotation.World

end TypeProjection
