import TypeProjection.Proofs.Declaring

/-!
# What each step of a walk does

One statement for each function of the walk: the texts that it returns are the readings, and the
registry grows by what it asks for. Calls that follow the readings to one depth make steps that
follow them to the next, so all calls do.
-/

namespace TypeProjection

namespace Universe

variable {τ : Type}

/-- A registry of a run with the options `o`, on which a walk may start. -/
structure Ready (U : Universe τ) (o : Options τ) (r : Registry τ) : Prop where
  named : r.Named U
  options : r.options = o

theorem Ready.withEvents {U : Universe τ} {o : Options τ} {r : Registry τ} (hr : U.Ready o r)
    (es : List Event) : U.Ready o { r with events := es } :=
  ⟨hr.named.withEvents es, hr.options⟩

variable [BEq τ] {U : Universe τ} {K : τ → Prop} {o : Options τ} {n : Nat}
  {asked : Item τ → Prop} {r r' : Registry τ}

theorem Serves.ready (h : U.Serves K o n asked r r') (hr : U.Ready o r) : U.Ready o r' :=
  ⟨h.grows.named hr.options hr.named, h.grows.options_eq.trans hr.options⟩

theorem Serves.fromEvents {es : List Event} (h : U.Serves K o n asked { r with events := es } r') :
    U.Serves K o n asked r r' :=
  ⟨(Grows.events r es).trans h.grows, h.has⟩

theorem Serves.toEvents {es : List Event} (h : U.Serves K o n asked r r') :
    U.Serves K o n asked r { r' with events := es } := by
  have he : U.Grows K o n asked r' { r' with events := es } := Grows.events r' es
  exact ⟨h.grows.trans he, fun i hi => he.has (h.has i hi)⟩

/-- Nothing is asked for when nothing can be. -/
theorem Serves.nothing (h : ∀ i, ¬ asked i) : U.Serves K o n asked r r :=
  (Serves.refl r).congr fun i => ⟨fun hi => h i hi, False.elim⟩

/-- An enumeration that was not listed is added. -/
theorem serves_registerEnum {t : τ} (hr : r.findEnum t = none) (hs : U.skipped o t = false) :
    U.Serves K o n (U.Enumerates o t) r (r.registerEnum (U.enumeration o t)) := by
  have hp : Registry.putEnum (U.enumeration o t) r.enums = r.enums ++ [U.enumeration o t] :=
    Registry.putEnum_eq_append (Registry.findEnum_eq_none_iff.mp hr)
  have hlisted : U.Listed o (U.Enumerates o t) r (U.enumeration o t) :=
    ⟨Registry.findEnum_eq_none_iff.mp hr, .seed ⟨hs, rfl⟩, rfl⟩
  constructor
  · refine ⟨[], [U.enumeration o t], rfl, rfl, (List.append_nil _).symm, hp, ?_, ?_, ?_, ?_, ?_⟩
    · exact fun d hd => (List.not_mem_nil hd).elim
    · exact .nil
    · trivial
    · intro e he
      cases List.mem_singleton.mp he
      exact hlisted
    · exact List.pairwise_singleton _ _
  · rintro i ⟨_, rfl⟩
    refine ⟨U.enumeration o t, ?_, .inl rfl⟩
    change _ ∈ Registry.putEnum _ _
    rw [hp]
    simp

end Universe

namespace Walk

open Universe

variable {τ α β : Type} [BEq τ] {U : Universe τ} {K : τ → Prop} {o : Options τ} {n : Nat}
  {c : Calls τ} {r : Registry τ}

/-- Calls that read references to a depth and serve what they are asked for. -/
structure Follow (U : Universe τ) (K : τ → Prop) (o : Options τ) (n : Nat) (c : Calls τ) :
    Prop where
  resolve : ∀ t r, U.Ready o r → Ends false (c.resolve t) r fun s r' =>
    U.reading o n t = some s ∧ U.Serves K o n (U.Meets o t) r r'
  build : ∀ t r, U.isStructural t = true → U.Ready o r → Ends false (c.build t) r fun x r' =>
    U.Serves K o n (U.Builds o t) r r' ∧
      if U.skipped o t then x = none
      else ∃ d, x = some d ∧ d.name = o.rename (U.name (U.normal t))

/-- Over a list, the answers are those of its items, and what any item asks for is served. -/
theorem ends_mapM {f : α → Walk τ β} {g : α → Option β} {asked : α → Item τ → Prop} {xs : List α}
    (h : ∀ x ∈ xs, ∀ r, U.Ready o r → Ends false (f x) r fun y r' =>
      g x = some y ∧ U.Serves K o n (asked x) r r')
    (hr : U.Ready o r) :
    Ends false (xs.mapM f) r fun ys r' =>
      xs.mapM g = some ys ∧ U.Serves K o n (fun i => ∃ x ∈ xs, asked x i) r r' := by
  induction xs generalizing r with
  | nil =>
    rw [List.mapM_nil, ends_pure]
    exact ⟨rfl, .nothing fun i => by simp⟩
  | cons x xs ih =>
    rw [List.mapM_cons]
    simp only [ends_bind, ends_pure]
    refine (h x (List.mem_cons_self ..) r hr).mono ?_
    intro y r₁ hend
    obtain ⟨hy, h₁⟩ := hend
    have hrest := ih (fun z hz => h z (List.mem_cons_of_mem x hz)) (h₁.ready hr)
    refine hrest.mono ?_
    intro ys r₂ hend
    obtain ⟨hys, h₂⟩ := hend
    refine ⟨?_, ?_⟩
    · rw [List.mapM_cons, hy, hys]
      rfl
    · exact (h₁.trans h₂).congr fun i => by simp

theorem Follow.resolveAll (hc : Follow U K o n c) (ts : List τ) (hr : U.Ready o r) :
    Ends false (ts.mapM c.resolve) r fun ss r' =>
      ts.mapM (U.reading o n) = some ss ∧
        U.Serves K o n (fun i => ∃ t ∈ ts, U.Meets o t i) r r' :=
  ends_mapM (fun t _ r hr => hc.resolve t r hr) hr

theorem ends_buildEnum (hU : U.Coherent K) {t : τ} (ht : U.isEnum t = true) (hr : U.Ready o r) :
    Ends false (buildEnum U t) r fun x r' =>
      U.Serves K o n (U.Enumerates o t) r r' ∧
        if U.skipped o t then x = none
        else ∃ d, x = some d ∧ d.name = o.rename (U.name t) := by
  unfold buildEnum
  simp only [ends_bind, ends_isSkipped, hr.options]
  change Ends false (if U.skipped o t = true then _ else _) r _
  cases hs : U.skipped o t with
  | true =>
    refine ⟨Serves.toEvents (.nothing fun i hi => ?_), rfl⟩
    exact Bool.false_ne_true (hi.1.symm.trans hs)
  | false =>
    simp only [Bool.false_eq_true, ↓reduceIte, ends_bind, ends_get]
    cases hf : r.findEnum t with
    | some d =>
      obtain ⟨hd, he⟩ := Registry.mem_of_findEnum hf
      refine ⟨⟨Grows.refl r, ?_⟩, d, rfl, ?_⟩
      · rintro i ⟨_, rfl⟩
        exact ⟨d, hd, .inr he⟩
      · rw [hr.named.enums d hd, hr.options, hU.enumName _ _ ht he]
    | none =>
      simp only [ends_bind, ends_renamed, ends_modify, ends_report, ends_pure, hr.options]
      exact ⟨Serves.toEvents (serves_registerEnum hf hs), _, rfl, rfl⟩

/-- The reference to a structure whose declaration is asked for first. -/
theorem Follow.structureReference (hc : Follow U K o n c) {t : τ} (ht : U.shape o t = .declared)
    (hr : U.Ready o r) :
    Ends false (structureReference U c t) r fun s r' =>
      U.readingFrom o (U.reading o n) t = some s ∧ U.Serves K o n (U.Meets o t) r r' := by
  have hst := isStructural_of_shape ht
  unfold Walk.structureReference
  rw [ends_bind]
  refine (hc.build t r hst hr).mono ?_
  intro x r₁ hend
  obtain ⟨h₁, hx⟩ := hend
  cases hs : U.skipped o t with
  | true =>
    rw [if_pos hs] at hx
    subst hx
    refine ⟨?_, h₁.congr fun i => ?_⟩
    · simp [readingFrom, ht, hs]
    · rw [meets_iff]
      simp [Builds, emitted, parts, ht, hs]
  | false =>
    rw [if_neg (Bool.eq_false_iff.mp hs)] at hx
    obtain ⟨d, rfl, hd⟩ := hx
    cases hcon : U.isConstructed t with
    | true =>
      simp only [↓reduceIte, ends_bind]
      refine (hc.resolveAll (U.arguments t) (h₁.ready hr)).mono ?_
      intro ss r₂ hend
      obtain ⟨hss, h₂⟩ := hend
      refine ⟨?_, ?_⟩
      · simp [readingFrom, ht, hs, hcon, hss, hd, argumentText, String.append_assoc]
      · refine (h₁.trans h₂).congr fun i => ?_
        rw [meets_iff]
        simp [Builds, emitted, parts, ht, hs, hcon, hst]
    | false =>
      have hserves : U.Serves K o n (U.Meets o t) r r₁ := h₁.congr fun i => by
        rw [meets_iff]
        simp [Builds, emitted, parts, ht, hs, hcon, hst]
      cases hdef : U.isDefinition t with
      | true =>
        refine ⟨?_, hserves⟩
        simp [readingFrom, ht, hs, hcon, hdef, hd, argumentText, String.append_assoc]
      | false =>
        refine ⟨?_, hserves⟩
        simp [readingFrom, ht, hs, hcon, hdef, hd]

/-- Resolving reads one step deeper than the calls that it makes. -/
theorem Follow.resolveStep (hU : U.Coherent K) (hc : Follow U K o n c) (t : τ)
    (hr : U.Ready o r) :
    Ends false (resolveStep U c t) r fun s r' =>
      U.reading o (n + 1) t = some s ∧ U.Serves K o n (U.Meets o t) r r' := by
  unfold Ends
  rw [resolveStep_eq, hr.options]
  change Ends false (resolveShape U c t (U.shape o t)) r _
  change Ends false _ r fun s r' =>
    U.readingFrom o (U.reading o n) t = some s ∧ U.Serves K o n (U.Meets o t) r r'
  cases hs : U.shape o t with
  | parameter =>
    refine ⟨?_, .nothing fun i => ?_⟩
    · simp [readingFrom, hs, hr.options]
    · rw [meets_iff]
      simp [parts, hs]
  | enumeration =>
    simp only [resolveShape, ends_bind]
    refine (ends_buildEnum (n := n) hU (isEnum_of_shape hs) hr).mono ?_
    intro x r₁ hend
    obtain ⟨h₁, hx⟩ := hend
    have hserves : U.Serves K o n (U.Meets o t) r r₁ := h₁.congr fun i => by
      rw [meets_iff]
      simp [Enumerates, parts, hs]
    cases hk : U.skipped o t with
    | true =>
      rw [if_pos hk] at hx
      subst hx
      exact ⟨by simp [readingFrom, hs, hk], hserves⟩
    | false =>
      rw [if_neg (Bool.eq_false_iff.mp hk)] at hx
      obtain ⟨d, rfl, hd⟩ := hx
      exact ⟨by simp [readingFrom, hs, hk, hd], hserves⟩
  | overridden reference =>
    refine ⟨?_, .nothing fun i => ?_⟩
    · simp [readingFrom, hs]
    · rw [meets_iff]
      simp [parts, hs]
  | scalar kind =>
    refine ⟨?_, .nothing fun i => ?_⟩
    · simp [readingFrom, hs, hr.options]
    · rw [meets_iff]
      simp [parts, hs]
  | union ts =>
    simp only [resolveShape, ends_bind]
    refine (hc.resolveAll ts hr).mono ?_
    intro ss r₁ hend
    obtain ⟨hss, h₁⟩ := hend
    refine ⟨?_, h₁.congr fun i => ?_⟩
    · simp [readingFrom, hs, hss]
    · rw [meets_iff]
      simp [parts, hs]
  | sequence e =>
    simp only [resolveShape, ends_bind]
    refine (hc.resolve e r hr).mono ?_
    intro s r₁ hend
    obtain ⟨he, h₁⟩ := hend
    refine ⟨?_, h₁.congr fun i => ?_⟩
    · simp [readingFrom, hs, he]
    · rw [meets_iff]
      simp [parts, hs]
  | mapping k v =>
    simp only [resolveShape, ends_bind]
    refine (hc.resolve k r hr).mono ?_
    intro key r₁ hend
    obtain ⟨hk, h₁⟩ := hend
    refine (hc.resolve v r₁ (h₁.ready hr)).mono ?_
    intro value r₂ hend
    obtain ⟨hv, h₂⟩ := hend
    refine ⟨?_, ?_⟩
    · simp [readingFrom, hs, hk, hv]
    · refine (h₁.trans h₂).congr fun i => ?_
      rw [meets_iff]
      simp [parts, hs]
  | tuple ts =>
    simp only [resolveShape, ends_bind]
    refine (hc.resolveAll ts hr).mono ?_
    intro ss r₁ hend
    obtain ⟨hss, h₁⟩ := hend
    refine ⟨?_, h₁.congr fun i => ?_⟩
    · simp [readingFrom, hs, hss]
    · rw [meets_iff]
      simp [parts, hs]
  | declared => exact hc.structureReference hs hr
  | unknown =>
    refine ⟨?_, .nothing fun i => ?_⟩
    · simp [readingFrom, hs]
    · rw [meets_iff]
      simp [parts, hs]

end Walk

end TypeProjection
