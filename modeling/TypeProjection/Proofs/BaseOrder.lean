import TypeProjection.Proofs.Population

/-!
# When a base is registered first

A type is registered when its header is complete, and by then its base is registered, or it is in
progress itself. In progress it can be only if its own header led to the type: through the bounds
of its parameters, an argument or an interface. So a base comes before a type in every run exactly
if its header does not lead to that type. Where it does, the run over the base alone has them the
wrong way round.
-/

namespace TypeProjection

/-- One key stands before another in a list of keys. -/
def Precedes {τ : Type} [BEq τ] (keys : List τ) (k l : τ) : Prop :=
  ∃ before j after, keys = before ++ j :: after ∧ (j == l) = true ∧ ∃ i ∈ before, (i == k) = true

namespace Registry

variable {τ : Type}

/-- The keys of the registered types, in the order of registration. -/
def keys (r : Registry τ) : List τ := r.types.map (·.source)

end Registry

namespace Universe

open Walk

variable {τ : Type} [BEq τ] {U : Universe τ} {K : τ → Prop} {o : Options τ} {n : Nat} {k x b : τ}
  {r r₁ r₂ : Registry τ} {d : TypeDeclaration τ} {ts₁ ts₂ : List (TypeDeclaration τ)}
  {es₁ es₂ : List (EnumDeclaration τ)}

theorem Ordered.at {progress before pre post : List τ}
    (h : U.Ordered o progress before (pre ++ k :: post)) (hb : U.emittedBase o k = some b) :
    (∃ j ∈ before ++ pre ++ progress, (j == U.normal b) = true) ∨ U.LeadsTo o (U.normal b) k := by
  induction pre generalizing before with
  | nil =>
    rw [List.append_nil]
    exact h.1 b hb
  | cons a pre ih =>
    have hrest := ih h.2
    rwa [List.append_assoc before, List.singleton_append] at hrest

theorem LeadsTo.congr (hU : U.Coherent K) (h : U.LeadsTo o k x) {y : τ} (hx : K x) (hy : K y)
    (hxy : (x == y) = true) : U.LeadsTo o k y := by
  obtain ⟨j, hj, hreach⟩ := h
  have hKj : K j := hreach.key hU fun _ hs => hs.key hU
  exact ⟨j, hU.trans _ _ _ hKj hx hy hj hxy, hreach⟩

/-- In every run, a type stands behind its base unless the header of the base leads to it. -/
theorem precedes_of_collect (hU : U.Coherent K) {roots : List τ} (hx : K x)
    (hb : U.emittedBase o x = some b) (hlead : ¬ U.LeadsTo o (U.normal b) x)
    (h : U.collect o roots = some r) (hreg : ∃ k ∈ r.keys, (k == x) = true) :
    Precedes r.keys (U.normal b) x := by
  obtain ⟨⟨types, enums, ha⟩, _⟩ := serves_collect hU h
  obtain ⟨rfl, _, _⟩ := ha.of_fresh
  obtain ⟨k, hk, hkx⟩ := hreg
  obtain ⟨d, hd, rfl⟩ := List.mem_map.mp hk
  have hKd := (ha.finished d hd).key
  obtain ⟨before, after, hsplit⟩ := List.append_of_mem hk
  have hord : U.Ordered o [] [] (before ++ d.source :: after) := by
    rw [← hsplit]
    exact ha.ordered
  have hb' : U.emittedBase o d.source = some b := by
    rw [(hU.alike _ _ hx hkx).emittedBase, hb]
  refine ⟨before, d.source, after, hsplit, hkx, ?_⟩
  rcases hord.at hb' with ⟨j, hj, hjb⟩ | hl
  · rw [List.nil_append, List.append_nil] at hj
    exact ⟨j, hj, hjb⟩
  · exact absurd (hl.congr hU hKd hx hkx) hlead

/-- When the header of a declaration is complete, all that it leads to is known. -/
theorem Stages.leadsTo_known (h : U.Stages K o n k d (Registry.fresh o) r₁ r₂ ts₁ ts₂ es₁ es₂)
    (hU : U.Coherent K) (hx : K x) (hlead : U.LeadsTo o k x) :
    ∃ i ∈ ts₁.map (·.source) ++ [k], (i == x) = true := by
  obtain ⟨j, hj, hreach⟩ := hlead
  have hknown : ∀ {l : τ}, r₁.Knows l → ∃ i ∈ ts₁.map (·.source) ++ [k], (i == l) = true := by
    rintro l ⟨e, he, hel⟩
    refine ⟨e.source, ?_, hel⟩
    rw [h.header_types, h.header_inProgress] at he
    rcases List.mem_append.mp he with he | he
    · exact List.mem_append_left _ (List.mem_map_of_mem he)
    · cases List.mem_singleton.mp he
      exact List.mem_append_right _ (List.mem_singleton_self k)
  have hhas : ∀ {i : Item τ}, U.Reach o (fun y => (k == y) = true) (U.HeaderNeeds o k) i →
      r₁.Has i := by
    intro i hi
    induction hi with
    | seed hs => exact h.headerHas _ hs
    | @step l i hl hstop hn ih =>
      obtain ⟨e, he, hel⟩ := ih
      rw [h.header_types, h.header_inProgress] at he
      have hKl : K l := hl.key hU fun _ hs => hs.key hU
      rcases List.mem_append.mp he with he | he
      · exact (h.header.finished e he).complete i ((hU.alike _ _ hKl hel).symm.needs hn)
      · cases List.mem_singleton.mp he
        exact absurd hel hstop
  obtain ⟨i, hi, hij⟩ := hknown (hhas hreach)
  have hKi : K i := by
    rcases List.mem_append.mp hi with hi | hi
    · obtain ⟨e, he, rfl⟩ := List.mem_map.mp hi
      exact (h.header.finished e he).key
    · cases List.mem_singleton.mp hi
      exact h.key
  have hKj : K j := hreach.key hU fun _ hs => hs.key hU
  exact ⟨i, hi, hU.trans _ _ _ hKi hKj hx hij hj⟩

/-- A key does not stand behind another one that is not before it. -/
theorem not_precedes (hU : U.Coherent K) {ks ls : List τ} (hkeys : ∀ j ∈ ks ++ [k] ++ ls, K j)
    (honce : (ks ++ [k] ++ ls).Pairwise fun i j => (i == j) = false) (hx : K x)
    (hmem : ∃ i ∈ ks ++ [k], (i == x) = true) : ¬ Precedes (ks ++ [k] ++ ls) k x := by
  rintro ⟨before, j, after, hsplit, hjx, a, ha, hak⟩
  obtain ⟨i, hi, hix⟩ := hmem
  have hKj : K j := hkeys j (by rw [hsplit]; simp)
  have hKi : K i := hkeys i (List.mem_append_left _ hi)
  -- The key of the type stands at one place only, so it cannot be among those before itself.
  have hnot : i ∉ before := by
    intro hib
    rw [hsplit] at honce
    have hne := (List.pairwise_append.mp honce).2.2 i hib j (List.mem_cons_self ..)
    rw [hU.trans _ _ _ hKi hx hKj hix (hU.symm _ _ hKj hx hjx)] at hne
    cases hne
  rcases List.append_eq_append_iff.mp hsplit with ⟨as, hbefore, _⟩ | ⟨as, hpre, _⟩
  · refine hnot ?_
    rw [hbefore]
    exact List.mem_append_left _ hi
  · rcases List.eq_nil_or_concat as with rfl | ⟨as, l, rfl⟩
    · rw [List.append_nil] at hpre
      exact hnot (hpre ▸ hi)
    · rw [List.concat_eq_append, ← List.append_assoc] at hpre
      obtain ⟨hks, hkl⟩ := List.append_inj' hpre rfl
      have hak' : a ∈ ks := by
        rw [hks]
        exact List.mem_append_left _ ha
      have hne := (List.pairwise_append.mp (List.pairwise_append.mp honce).1).2.2 a hak' k
        (List.mem_singleton_self k)
      rw [hak] at hne
      cases hne

/-- The run over one structure makes its declaration before any other. -/
theorem made_of_collect (hU : U.Coherent K) (he : U.isEnum b = false) (hb : U.emitted o b = true)
    (h : U.collect o [b] = some r) : ∃ m d, Made U K o m (U.normal b) (Registry.fresh o) d r := by
  obtain ⟨⟨u, r'⟩, hrun, rfl⟩ := Option.map_eq_some_iff.mp h
  have hends : Ends false (U.declareRoots [b]) (Registry.fresh o) fun _ r' =>
      ∃ m d, Made U K o m (U.normal b) (Registry.fresh o) d r' := by
    change Ends false (U.declareRoot b >>= fun _ => pure ()) _ _
    unfold declareRoot
    simp only [he, isStructural_of_emitted hb, Bool.false_eq_true, ↓reduceIte, ends_bind, ends_pure]
    change Ends false ((TypeProjection.calls U U.depth).build b) _ _
    cases U.depth with
    | zero => rfl
    | succ m =>
      have hnew : ¬ (Registry.fresh o).Knows (U.normal b) := by
        rintro ⟨d, hd, _⟩
        exact List.not_mem_nil hd
      refine ((follow_calls hU o m).buildNew hU hb hnew (ready_fresh U o)).mono ?_
      rintro x r₁ ⟨d, _, hmade⟩
      exact ⟨m, d, hmade⟩
  exact ends_loose.mp hends u r' hrun

/-- A base whose header leads to a type is behind it when the base is the only root. -/
theorem not_precedes_of_leadsTo (hU : U.Coherent K) (hx : K x) (he : U.isEnum b = false)
    (hb : U.emitted o b = true) (hlead : U.LeadsTo o (U.normal b) x)
    (h : U.collect o [b] = some r) :
    (∃ k ∈ r.keys, (k == x) = true) ∧ ¬ Precedes r.keys (U.normal b) x := by
  obtain ⟨m, c, d, r₁, r₂, ts₁, ts₂, es₁, es₂, ms, events, hst, rfl, hrec, rfl⟩ :=
    made_of_collect hU he hb h
  have hadds := hst.adds hU hrec (rfl : Item.type (U.normal b) = .type (U.normal b))
  have hkeys : Registry.keys { r₂.setMembers (U.normal b) ms with events := events } =
      ts₁.map (·.source) ++ [U.normal b] ++ ts₂.map (·.source) := by
    change (r₂.setMembers (U.normal b) ms).types.map (·.source) = _
    rw [hst.finished_types hU]
    simp [Registry.fresh, hst.source]
  have hsources : (ts₁ ++ { d with members := ms } :: ts₂).map (·.source) =
      ts₁.map (·.source) ++ [U.normal b] ++ ts₂.map (·.source) := by
    simp [hst.source]
  have hmem := hst.leadsTo_known hU hx hlead
  rw [hkeys]
  refine ⟨?_, not_precedes hU ?_ ?_ hx hmem⟩
  · obtain ⟨i, hi, hix⟩ := hmem
    exact ⟨i, List.mem_append_left _ hi, hix⟩
  · rw [← hsources]
    intro j hj
    obtain ⟨e, he, rfl⟩ := List.mem_map.mp hj
    exact (hadds.finished e he).key
  · rw [← hsources, List.pairwise_map]
    exact hadds.distinct

/-- A base is registered before a type in every run exactly if its header does not lead to the
type. -/
theorem base_first_iff (hU : U.Coherent K) (hx : K x) (hb : U.emittedBase o x = some b)
    (he : U.isEnum b = false) (hrun : (U.collect o [b]).isSome = true) :
    (∀ roots r, U.collect o roots = some r → (∃ k ∈ r.keys, (k == x) = true) →
      Precedes r.keys (U.normal b) x) ↔ ¬ U.LeadsTo o (U.normal b) x := by
  constructor
  · intro hfirst hlead
    obtain ⟨r, hr⟩ := Option.isSome_iff_exists.mp hrun
    obtain ⟨hreg, hnot⟩ :=
      not_precedes_of_leadsTo hU hx he (emitted_of_emittedBase hb) hlead hr
    exact hnot (hfirst [b] r hr hreg)
  · intro hlead roots r h hreg
    exact precedes_of_collect hU hx hb hlead h hreg

/-- A type with a member of a type that extends it. -/
def memberCycle : TypeGraph where
  nodes := [
    ("A", { GraphNode.plain "A" with members := [("child", "B")] }),
    ("B", { GraphNode.plain "B" with base := some "A" })]

/-- A cycle through members leaves the base first, also in the run over the type that extends
it. -/
theorem base_first_memberCycle :
    ∃ r, memberCycle.types.collect Options.default ["B"] = some r ∧ Precedes r.keys "A" "B" := by
  have hnone : ∀ i, ¬ memberCycle.types.HeaderNeeds Options.default "A" i := by
    intro i hi
    cases hi with
    | base hb _ => exact nomatch hb
    | interface hs ht _ =>
      cases hs
      exact List.not_mem_nil ht
    | bound hd _ _ _ => exact nomatch hd
    | alternative hd _ _ _ => exact nomatch hd
  have hlead : ¬ memberCycle.types.LeadsTo Options.default "A" "B" := by
    rintro ⟨j, _, hreach⟩
    generalize Item.type j = i at hreach
    induction hreach with
    | seed hs => exact hnone _ hs
    | step _ _ _ ih => exact ih
  obtain ⟨hrun, hends⟩ : (memberCycle.types.collect Options.default ["B"]).map
      (fun r => r.keys.contains "B") = some true ∧
      (memberCycle.types.collect Options.default ["A"]).isSome = true := by decide +kernel
  obtain ⟨r, hr, hreg⟩ := Option.map_eq_some_iff.mp hrun
  have hbase : memberCycle.types.emittedBase Options.default "B" = some "A" := by decide
  have hfirst := (base_first_iff (coherent_of_lawful _) trivial hbase rfl hends).mpr hlead
  exact ⟨r, hr, hfirst ["B"] r hr ⟨"B", List.contains_iff_mem.mp hreg, rfl⟩⟩

/-- A base does not come first in every run: the run over a generic type has registered the bound
of its parameter before it, and the bound extends it. -/
theorem base_not_always_first :
    ¬ ∀ (g : TypeGraph) (o : Options String) (roots : List String) (r : Registry String),
      g.types.collect o roots = some r → ∀ x ∈ r.keys, ∀ b, g.types.emittedBase o x = some b →
        Precedes r.keys (g.types.normal b) x := by
  intro hall
  have hrun : (selfBounded.types.collect Options.default ["A"]).map Registry.keys =
      some ["B", "A"] := by decide +kernel
  obtain ⟨r, hr, hkeys⟩ := Option.map_eq_some_iff.mp hrun
  have hfirst := hall selfBounded Options.default ["A"] r hr "B" (by rw [hkeys]; simp) "A" rfl
  rw [hkeys] at hfirst
  obtain ⟨before, j, after, hsplit, hj, i, hi, _⟩ := hfirst
  cases eq_of_beq hj
  cases before with
  | nil => exact List.not_mem_nil hi
  | cons a before =>
    cases before with
    | nil => simp at hsplit
    | cons a' before => simp at hsplit

end Universe

end TypeProjection
