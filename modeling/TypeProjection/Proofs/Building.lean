import TypeProjection.Proofs.Header

/-!
# Building follows the readings at every depth

A declaration goes through its stages, so building one is growth. Calls without depth say nothing,
and a step makes calls that read one level deeper. Hence the calls of every depth follow the
readings, and a run over roots grows the empty registry by what the roots ask for.
-/

namespace TypeProjection

namespace Walk

open Universe

variable {τ : Type} [BEq τ] {U : Universe τ} {K : τ → Prop} {o : Options τ} {n : Nat}
  {c : Calls τ} {r : Registry τ}

/-- Only the last type in progress is the one that is registered, so it may be any draft of it. -/
theorem registerType_of_last {r' : Registry τ} {ds : List (TypeDeclaration τ)}
    {d d₁ d₂ : TypeDeclaration τ} (h : r.inProgress = ds ++ [d₁]) (h' : r'.inProgress = ds ++ [d₂])
    (hd : (d₁.source == d.source) = true) (hd' : (d₂.source == d.source) = true) :
    r.registerType d = Registry.registerType { r with inProgress := r'.inProgress } d := by
  have hfilter (e : TypeDeclaration τ) (he : (e.source == d.source) = true) :
      (ds ++ [e]).filter (fun e => !(e.source == d.source)) =
        ds.filter fun e => !(e.source == d.source) := by
    rw [List.filter_append, List.filter_cons_of_neg (by rw [he]; decide), List.filter_nil,
      List.append_nil]
  unfold Registry.registerType
  change { r with
    inProgress := r.inProgress.filter fun e => !(e.source == d.source)
    types := _ } = { r with
    inProgress := r'.inProgress.filter fun e => !(e.source == d.source)
    types := _ }
  rw [h, h', hfilter _ hd, hfilter _ hd']

/-- A declaration that a walk made, from the registry it started at to the one it left. -/
def Made (U : Universe τ) (K : τ → Prop) (o : Options τ) (n : Nat) (k : τ) (r : Registry τ)
    (x : TypeDeclaration τ) (r' : Registry τ) : Prop :=
  ∃ d r₁ r₂ ts₁ ts₂ es₁ es₂ ms events, U.Stages K o n k d r r₁ r₂ ts₁ ts₂ es₁ es₂ ∧
    x = { d with members := ms } ∧ U.declaration o n k = some x ∧
    r' = { r₂.setMembers k ms with events := events }

theorem Made.serves (hU : U.Coherent K) {k : τ} {x : TypeDeclaration τ} {r' : Registry τ}
    (h : Made U K o n k r x r') : U.Serves K o n (fun i => i = .type k) r r' := by
  obtain ⟨d, r₁, r₂, ts₁, ts₂, es₁, es₂, ms, events, hst, rfl, hx, rfl⟩ := h
  refine Serves.toEvents ⟨⟨_, _, hst.adds hU hx rfl⟩, ?_⟩
  rintro i rfl
  refine ⟨{ d with members := ms }, List.mem_append_left _ ?_, ?_⟩
  · rw [hst.finished_types hU]
    simp
  · change (d.source == k) = true
    rw [hst.source]
    exact hU.refl k hst.key

theorem Follow.declareType (hU : U.Coherent K) (hc : Follow U K o n c) {k : τ} (hK : K k)
    (hk : ¬ r.Knows k) (hr : U.Ready o r) :
    Ends false (declareType U c k) r fun x r' => Made U K o n k r x r' := by
  unfold Walk.declareType
  simp only [ends_bind, ends_get, ends_renamed, ends_modify, ends_report, ends_pure, hr.options]
  have hclaim : U.Ready o (r.claimType (U.begun o k)) :=
    ⟨hr.named.claimType (by rw [hr.options]; rfl), hr.options⟩
  refine (hc.baseReference k hclaim).mono ?_
  intro base r₁ hend
  obtain ⟨hb, hbase, h₁⟩ := hend
  rw [hbase]
  have hr₁ := h₁.ready hclaim
  refine (hc.interfaceReferences k hr₁).mono ?_
  intro interfaces r₂ hend
  obtain ⟨hi, h₂⟩ := hend
  have hr₂ := h₂.ready hr₁
  have hplace : U.Ready o (r₂.claimType (U.headed o k base.1 interfaces [])) :=
    ⟨hr₂.named.claimType (by rw [hr₂.options]; rfl), hr₂.options⟩
  refine (hc.typeParameters _ k hplace).mono ?_
  intro parameters r₃ hend
  obtain ⟨hp, h₃⟩ := hend
  have hr₃ := h₃.ready hplace
  have hself : (k == k) = true := hU.refl k hK
  have hbegun : r₂.inProgress = r.inProgress ++ [U.begun o k] := by
    rw [h₂.grows.inProgress_eq, h₁.grows.inProgress_eq, claimType_inProgress (d := U.begun o k) hk]
  have hplaced : r₃.inProgress = r.inProgress ++ [U.headed o k base.1 interfaces []] := by
    rw [h₃.grows.inProgress_eq]
    change Registry.putType _ r₂.inProgress = _
    rw [hbegun]
    exact Registry.putType_concat
      (fun e he => source_ne_of_not_knows hk e (List.mem_append_right _ he)) hself
  -- The parameters are walked with the supertypes known, which nothing that is served depends on.
  have hsources : r₂.inProgress.map (·.source) =
      (r₂.claimType (U.headed o k base.1 interfaces [])).inProgress.map (·.source) := by
    rw [← h₃.grows.inProgress_eq, hplaced, hbegun, List.map_append, List.map_append]
    rfl
  have hparameters := h₃.relabel hsources
  have hregistered :=
    registerType_of_last (d := U.headed o k base.1 interfaces parameters) hplaced hbegun hself hself
  have hheader := ((h₁.trans h₂).trans hparameters).congr fun i => headerNeeds_iff
  have hregister : U.Ready o (r₃.registerType (U.headed o k base.1 interfaces parameters)) :=
    ⟨hr₃.named.registerType (by rw [hr₃.options]; rfl), hr₃.options⟩
  refine (hc.memberDeclarations k hregister).mono ?_
  intro ms r₄ hend
  obtain ⟨hms, h₄⟩ := hend
  rw [hregistered] at h₄
  obtain ⟨ts₁, es₁, hadds₁⟩ := hheader.grows
  obtain ⟨ts₂, es₂, hadds₂⟩ := h₄.grows
  refine ⟨U.headed o k base.1 interfaces parameters, { r₃ with inProgress := r₂.inProgress }, r₄,
    ts₁, ts₂, es₁, es₂, ms, _, ?_, rfl, ?_, rfl⟩
  · exact ⟨hK, hk, rfl, hadds₁, hheader.has, hadds₂, h₄.has⟩
  · unfold Universe.declaration declarationFrom
    rw [hb, hi, hp, hms]
    rfl

/-- Building a structure that is not known makes its declaration. -/
theorem Follow.buildNew (hU : U.Coherent K) (hc : Follow U K o n c) {t : τ}
    (ht : U.emitted o t = true) (hk : ¬ r.Knows (U.normal t)) (hr : U.Ready o r) :
    Ends false (buildStep U c t) r fun x r' =>
      ∃ d, x = some d ∧ Made U K o n (U.normal t) r d r' := by
  have hs : U.skipped o t = false := by simpa using (Bool.and_eq_true_iff.mp ht).2
  have hs' : r.options.skips (U.displayName t) = false := by rwa [hr.options]
  unfold buildStep
  simp only [ends_bind, ends_isSkipped, hs', Bool.false_eq_true, ↓reduceIte, ends_get]
  have hf : r.findType (if U.isConstructed t then U.definition t else t) = none :=
    Registry.findType_eq_none_iff.mpr hk
  rw [hf]
  simp only [ends_bind, ends_pure]
  refine (hc.declareType hU (hU.structural t (isStructural_of_emitted ht)) hk hr).mono ?_
  exact fun d r' hd => ⟨d, rfl, hd⟩

/-- Building makes the declaration of a structure, or finds it, or leaves a skipped one out. -/
theorem Follow.buildStep (hU : U.Coherent K) (hc : Follow U K o n c) {t : τ}
    (ht : U.isStructural t = true) (hr : U.Ready o r) :
    Ends false (buildStep U c t) r fun x r' =>
      U.Serves K o n (U.Builds o t) r r' ∧
        if U.skipped o t then x = none
        else ∃ d, x = some d ∧ d.name = o.rename (U.name (U.normal t)) := by
  cases hs : U.skipped o t with
  | true =>
    have hs' : r.options.skips (U.displayName t) = true := by rwa [hr.options]
    unfold Walk.buildStep
    simp only [ends_bind, ends_isSkipped, hs', ↓reduceIte, ends_report, ends_pure, and_true]
    refine Serves.toEvents (.nothing fun i hi => ?_)
    simpa [emitted, hs] using hi.1
  | false =>
    have he : U.emitted o t = true := by simp [emitted, ht, hs]
    simp only [Bool.false_eq_true, ↓reduceIte]
    by_cases hk : r.Knows (U.normal t)
    · have hs' : r.options.skips (U.displayName t) = false := by rwa [hr.options]
      unfold Walk.buildStep
      simp only [ends_bind, ends_isSkipped, hs', Bool.false_eq_true, ↓reduceIte, ends_get]
      obtain ⟨d, hd⟩ : ∃ d, r.findType (if U.isConstructed t then U.definition t else t) =
          some d := by
        rw [← Option.ne_none_iff_exists', ne_eq, Registry.findType_eq_none_iff, not_not]
        exact hk
      obtain ⟨hmem, hsrc⟩ := Registry.mem_of_findType hd
      rw [hd]
      refine ⟨⟨Grows.refl r, ?_⟩, d, rfl, ?_⟩
      · rintro i ⟨_, rfl⟩
        exact hk
      · rw [hr.named.types d hmem, hr.options, (hU.alike _ _ (hU.structural t ht) hsrc).name]
    · refine (hc.buildNew hU he hk hr).mono ?_
      rintro x r' ⟨d, rfl, hd⟩
      refine ⟨(hd.serves hU).congr fun i => ?_, d, rfl, ?_⟩
      · simp [Builds, he]
      · obtain ⟨d', r₁, r₂, ts₁, ts₂, es₁, es₂, ms, events, _, rfl, hrec, _⟩ := hd
        exact (declaration_source_name hrec).2

end Walk

open Walk

namespace Universe

variable {τ : Type} [BEq τ] {U : Universe τ} {K : τ → Prop} {o : Options τ} {m n : Nat}
  {asked : Item τ → Prop} {r r' : Registry τ}

theorem Serves.deepen (h : U.Serves K o m asked r r') (hn : m ≤ n) : U.Serves K o n asked r r' :=
  ⟨h.grows.mono hn fun _ hi => hi, h.has⟩

/-- The calls of every depth follow the readings. -/
theorem follow_calls (hU : U.Coherent K) (o : Options τ) (n : Nat) :
    Follow U K o n (TypeProjection.calls U n) := by
  induction n with
  | zero => exact ⟨fun _ _ _ => rfl, fun _ _ _ _ => rfl⟩
  | succ n ih =>
    constructor
    · intro t r hr
      refine (ih.resolveStep hU t hr).mono ?_
      intro s r' hend
      obtain ⟨hs, h⟩ := hend
      refine ⟨hs, ?_⟩
      exact h.deepen (Nat.le_succ n)
    · intro t r ht hr
      refine (ih.buildStep hU ht hr).mono ?_
      intro x r' hend
      obtain ⟨h, hx⟩ := hend
      refine ⟨?_, hx⟩
      exact h.deepen (Nat.le_succ n)

theorem ends_declareRoot (hU : U.Coherent K) (t : τ) (hr : U.Ready o r) :
    Ends false (U.declareRoot t) r fun _ r' =>
      U.Serves K o U.depth (fun i => if U.isEnum t then U.Enumerates o t i else U.Builds o t i)
        r r' := by
  unfold declareRoot
  cases he : U.isEnum t with
  | true =>
    simp only [↓reduceIte, ends_bind, ends_pure]
    exact (ends_buildEnum hU he hr).mono fun _ _ h => h.1
  | false =>
    cases hst : U.isStructural t with
    | true =>
      simp only [Bool.false_eq_true, ↓reduceIte, ends_bind, ends_pure]
      exact ((follow_calls hU o U.depth).build t r hst hr).mono fun _ _ h => h.1
    | false =>
      refine Serves.toEvents (.nothing fun i hi => ?_)
      simp [Builds, emitted, hst] at hi

theorem ends_declareRoots (hU : U.Coherent K) (roots : List τ) (hr : U.Ready o r) :
    Ends false (U.declareRoots roots) r fun _ r' =>
      U.Serves K o U.depth (U.RootItem o roots) r r' := by
  unfold declareRoots RootItem
  induction roots generalizing r with
  | nil => exact Serves.nothing fun i => by simp
  | cons t roots ih =>
    change Ends false (U.declareRoot t >>= fun _ => roots.forM U.declareRoot) r _
    rw [ends_bind]
    refine (ends_declareRoot hU t hr).mono fun _ r₁ h₁ => ?_
    exact (ih (h₁.ready hr)).mono fun _ r₂ h₂ => (h₁.trans h₂).congr fun i => by simp

omit [BEq τ] in
/-- A run that has declared nothing yet may start. -/
theorem ready_fresh (U : Universe τ) (o : Options τ) : U.Ready o (Registry.fresh o) :=
  ⟨⟨fun _ hd => (List.not_mem_nil hd).elim, fun _ he => (List.not_mem_nil he).elim⟩, rfl⟩

/-- A whole run grows the empty registry by what its roots ask for. -/
theorem serves_collect (hU : U.Coherent K) {roots : List τ} (h : U.collect o roots = some r) :
    U.Serves K o U.depth (U.RootItem o roots) (Registry.fresh o) r := by
  obtain ⟨⟨u, r'⟩, hrun, rfl⟩ := Option.map_eq_some_iff.mp h
  exact ends_loose.mp (ends_declareRoots hU roots (ready_fresh U o)) u r' hrun

end Universe

end TypeProjection
