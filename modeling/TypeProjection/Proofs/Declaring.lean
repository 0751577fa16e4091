import TypeProjection.Proofs.Growth

/-!
# The growth that one declaration makes

A declaration is claimed, its header is served while it is in progress, it is registered, and its
members are served. What is added meanwhile is never filed under its own key, because the key is
known from the claim on. So the declaration stands between what its header added and what its
members added, and the whole is growth again.
-/

namespace TypeProjection.Universe

variable {τ : Type} [BEq τ]

/-- The stages of one declaration: `r₁` is reached when the header `d` is complete, and `r₂` when
all references of the members are known. -/
structure Stages (U : Universe τ) (K : τ → Prop) (o : Options τ) (n : Nat) (k : τ)
    (d : TypeDeclaration τ) (r r₁ r₂ : Registry τ) (ts₁ ts₂ : List (TypeDeclaration τ))
    (es₁ es₂ : List (EnumDeclaration τ)) : Prop where
  key : K k
  fresh : ¬ r.Knows k
  source : d.source = k
  header : U.Adds K o n (U.HeaderNeeds o k) (r.claimType (U.begun o k)) r₁ ts₁ es₁
  headerHas : ∀ i, U.HeaderNeeds o k i → r₁.Has i
  members : U.Adds K o n (U.MemberNeeds o k) (r₁.registerType d) r₂ ts₂ es₂
  membersHas : ∀ i, U.MemberNeeds o k i → r₂.Has i

variable {U : Universe τ} {K : τ → Prop} {o : Options τ} {n : Nat} {asked : Item τ → Prop} {k : τ}
  {d : TypeDeclaration τ} {ms : List MemberDeclaration} {r r₁ r₂ : Registry τ}
  {ts₁ ts₂ : List (TypeDeclaration τ)} {es₁ es₂ : List (EnumDeclaration τ)}

theorem source_ne_of_not_knows (h : ¬ r.Knows k) :
    ∀ e ∈ r.types ++ r.inProgress, (e.source == k) = false := by
  intro e he
  rw [← Bool.not_eq_true]
  exact fun hk => h ⟨e, he, hk⟩

theorem claimType_inProgress (h : ¬ r.Knows d.source) :
    (r.claimType d).inProgress = r.inProgress ++ [d] :=
  Registry.putType_eq_append fun e he =>
    source_ne_of_not_knows h e (List.mem_append_right _ he)

theorem claimType_knows (h : ¬ r.Knows d.source) {j : τ} :
    (r.claimType d).Knows j ↔ r.Knows j ∨ (d.source == j) = true := by
  unfold Registry.Knows
  rw [claimType_inProgress h]
  change (∃ e ∈ r.types ++ (r.inProgress ++ [d]), (e.source == j) = true) ↔ _
  constructor
  · rintro ⟨e, he, hj⟩
    rw [← List.append_assoc] at he
    rcases List.mem_append.mp he with he | he
    · exact .inl ⟨e, he, hj⟩
    · cases List.mem_singleton.mp he
      exact .inr hj
  · rintro (⟨e, he, hj⟩ | hj)
    · refine ⟨e, ?_, hj⟩
      rw [← List.append_assoc]
      exact List.mem_append_left _ he
    · exact ⟨d, by simp, hj⟩

/-- What is added while a key is known is not filed under it. -/
theorem Adds.source_ne (h : U.Adds K o n asked r r₁ ts₁ es₁) (hU : U.Coherent K)
    {c : TypeDeclaration τ} (hc : c ∈ r.types ++ r.inProgress) (hk : K c.source) :
    ∀ e ∈ ts₁, (e.source == c.source) = false := by
  intro e he
  rw [← Bool.not_eq_true]
  exact fun hek => (h.finished e he).fresh
    ⟨c, hc, hU.symm _ _ (h.finished e he).key hk hek⟩

namespace Stages

theorem claimed_knows (h : U.Stages K o n k d r r₁ r₂ ts₁ ts₂ es₁ es₂) {j : τ} :
    (r.claimType (U.begun o k)).Knows j ↔ r.Knows j ∨ (k == j) = true :=
  claimType_knows (d := U.begun o k) h.fresh

theorem header_inProgress (h : U.Stages K o n k d r r₁ r₂ ts₁ ts₂ es₁ es₂) :
    r₁.inProgress = r.inProgress ++ [U.begun o k] := by
  rw [h.header.inProgress_eq]
  exact claimType_inProgress (d := U.begun o k) h.fresh

theorem header_types (h : U.Stages K o n k d r r₁ r₂ ts₁ ts₂ es₁ es₂) :
    r₁.types = r.types ++ ts₁ := h.header.types_eq

theorem header_ne (h : U.Stages K o n k d r r₁ r₂ ts₁ ts₂ es₁ es₂) (hU : U.Coherent K) :
    ∀ e ∈ ts₁, (e.source == k) = false := by
  refine h.header.source_ne hU (c := U.begun o k) ?_ h.key
  rw [claimType_inProgress (d := U.begun o k) h.fresh]
  simp

theorem header_types_ne (h : U.Stages K o n k d r r₁ r₂ ts₁ ts₂ es₁ es₂) (hU : U.Coherent K) :
    ∀ e ∈ r₁.types, (e.source == k) = false := by
  intro e he
  rw [h.header_types] at he
  rcases List.mem_append.mp he with he | he
  · exact source_ne_of_not_knows h.fresh e (List.mem_append_left _ he)
  · exact h.header_ne hU e he

theorem registered_inProgress (h : U.Stages K o n k d r r₁ r₂ ts₁ ts₂ es₁ es₂)
    (hU : U.Coherent K) : (r₁.registerType d).inProgress = r.inProgress := by
  change r₁.inProgress.filter (fun e => !(e.source == d.source)) = r.inProgress
  rw [h.header_inProgress, h.source, List.filter_append]
  have hold : r.inProgress.filter (fun e => !(e.source == k)) = r.inProgress := by
    rw [List.filter_eq_self]
    intro e he
    rw [source_ne_of_not_knows h.fresh e (List.mem_append_right _ he)]
    rfl
  have hself : [U.begun o k].filter (fun e => !(e.source == k)) = [] := by
    have hb : ((U.begun o k).source == k) = true := hU.refl k h.key
    simp [hb]
  rw [hold, hself, List.append_nil]

theorem registered_types (h : U.Stages K o n k d r r₁ r₂ ts₁ ts₂ es₁ es₂) (hU : U.Coherent K) :
    (r₁.registerType d).types = r.types ++ (ts₁ ++ [d]) := by
  have hp : Registry.putType d r₁.types = r₁.types ++ [d] := by
    apply Registry.putType_eq_append
    rw [h.source]
    exact h.header_types_ne hU
  change Registry.putType d r₁.types = _
  rw [hp, h.header_types, List.append_assoc]

/-- Registering loses nothing: the declaration itself takes the place of the claim. -/
theorem registered_has (h : U.Stages K o n k d r r₁ r₂ ts₁ ts₂ es₁ es₂) (hU : U.Coherent K)
    {i : Item τ} (hi : r₁.Has i) : (r₁.registerType d).Has i := by
  cases i with
  | enumeration t => exact hi
  | type j =>
    obtain ⟨e, he, hj⟩ := hi
    have hmem : e ∈ r.types ++ ts₁ ∨ e ∈ r.inProgress ∨ e = U.begun o k := by
      rw [h.header_types, h.header_inProgress] at he
      rcases List.mem_append.mp he with he | he
      · exact .inl he
      · rcases List.mem_append.mp he with he | he
        · exact .inr (.inl he)
        · exact .inr (.inr (List.mem_singleton.mp he))
    unfold Registry.Has Registry.Knows
    rw [h.registered_inProgress hU, h.registered_types hU]
    rcases hmem with he | he | rfl
    · refine ⟨e, ?_, hj⟩
      rw [← List.append_assoc]
      exact List.mem_append_left _ (List.mem_append_left _ he)
    · exact ⟨e, List.mem_append_right _ he, hj⟩
    · refine ⟨d, by simp, ?_⟩
      rw [h.source]
      exact hj

theorem knows_of_old (h : U.Stages K o n k d r r₁ r₂ ts₁ ts₂ es₁ es₂) (hU : U.Coherent K) {j : τ}
    (hj : r.Knows j) : (r₁.registerType d).Knows j := by
  have hc : (r.claimType (U.begun o k)).Knows j := h.claimed_knows.mpr (.inl hj)
  exact h.registered_has hU (i := .type j) (h.header.knows hc)

theorem member_ne (h : U.Stages K o n k d r r₁ r₂ ts₁ ts₂ es₁ es₂) (hU : U.Coherent K) :
    ∀ e ∈ ts₂, (e.source == k) = false := by
  have hd : d ∈ (r₁.registerType d).types ++ (r₁.registerType d).inProgress := by
    rw [h.registered_types hU]
    simp
  have hne := h.members.source_ne hU hd (h.source ▸ h.key)
  rwa [h.source] at hne

/-- The types after all stages: the declaration stands behind what its header added. -/
theorem finished_types (h : U.Stages K o n k d r r₁ r₂ ts₁ ts₂ es₁ es₂) (hU : U.Coherent K) :
    (r₂.setMembers k ms).types = r.types ++ (ts₁ ++ { d with members := ms } :: ts₂) := by
  have hsame : ∀ es : List (TypeDeclaration τ), (∀ e ∈ es, (e.source == k) = false) →
      es.map (fun e => if e.source == k then { e with members := ms } else e) = es := by
    intro es hes
    conv_rhs => rw [← List.map_id es]
    apply List.map_congr_left
    intro e he
    rw [hes e he]
    rfl
  have hself : (d.source == k) = true := by
    rw [h.source]
    exact hU.refl k h.key
  change r₂.types.map (fun e => if e.source == k then { e with members := ms } else e) = _
  rw [h.members.types_eq, h.registered_types hU, List.map_append, hsame _ (h.member_ne hU),
    ← List.append_assoc, List.map_append, ← h.header_types, hsame _ (h.header_types_ne hU)]
  simp [hself, h.header_types]

theorem finished_inProgress (h : U.Stages K o n k d r r₁ r₂ ts₁ ts₂ es₁ es₂) (hU : U.Coherent K) :
    (r₂.setMembers k ms).inProgress = r.inProgress := by
  change r₂.inProgress = _
  rw [h.members.inProgress_eq, h.registered_inProgress hU]

end Stages

/-- Filling in members changes no key. -/
theorem setMembers_has {i : Item τ} (hi : r.Has i) : (r.setMembers k ms).Has i := by
  cases i with
  | enumeration t => exact hi
  | type j =>
    obtain ⟨e, he, hej⟩ := hi
    rcases List.mem_append.mp he with he | he
    · refine ⟨if e.source == k then { e with members := ms } else e, ?_, ?_⟩
      · exact List.mem_append_left _ (List.mem_map_of_mem he)
      · split <;> exact hej
    · exact ⟨e, List.mem_append_right _ he, hej⟩

namespace Stages

/-- A key that its own header leads to may extend the declaration while that is in progress. -/
theorem header_ordered (h : U.Stages K o n k d r r₁ r₂ ts₁ ts₂ es₁ es₂) (hU : U.Coherent K) :
    U.Ordered o (r.inProgress.map (·.source)) (r.types.map (·.source)) (ts₁.map (·.source)) := by
  have ho := h.header.ordered
  rw [claimType_inProgress (d := U.begun o k) h.fresh, List.map_append] at ho
  refine ho.forget fun j hj b hb hkb => ?_
  obtain ⟨e, he, rfl⟩ := List.mem_map.mp hj
  have hKb : K (U.normal b) :=
    hU.structural b (isStructural_of_emitted (emitted_of_emittedBase hb))
  refine ⟨e.source, hU.refl _ (h.header.finished e he).key, ?_⟩
  have hr := (h.header.finished e he).reached
  -- Only keys occur on the way, so transitivity carries the stops over to the base.
  have hgo : ∀ {i : Item τ}, U.Reach o (r.claimType (U.begun o k)).Knows (U.HeaderNeeds o k) i →
      U.Reach o (fun y => (U.normal b == y) = true) (U.HeaderNeeds o (U.normal b)) i := by
    intro i hi
    induction hi with
    | seed hs => exact .seed ((hU.alike _ _ hKb hkb).headerNeeds hs)
    | step hy hstop hn ih =>
      refine .step ih (fun hby => hstop ?_) hn
      have hKy := hy.key hU fun _ hs => hs.key hU
      exact h.claimed_knows.mpr (.inr (hU.trans _ _ _ h.key hKb hKy hkb hby))
  exact hgo hr

/-- The base of a declaration is registered when the header is complete, or in progress, or the
header leads back. -/
theorem self_ordered (h : U.Stages K o n k d r r₁ r₂ ts₁ ts₂ es₁ es₂) (hU : U.Coherent K) {b : τ}
    (hb : U.emittedBase o k = some b) :
    (∃ j ∈ (r.types.map (·.source) ++ ts₁.map (·.source)) ++ r.inProgress.map (·.source),
      (j == U.normal b) = true) ∨ U.LeadsTo o (U.normal b) k := by
  have hem := emitted_of_emittedBase hb
  have hKb : K (U.normal b) := hU.structural b (isStructural_of_emitted hem)
  have hneed : U.HeaderNeeds o k (.type (U.normal b)) := .base hb (.self hem)
  obtain ⟨e, he, hej⟩ := h.headerHas _ hneed
  rw [h.header_types, h.header_inProgress] at he
  rcases List.mem_append.mp he with he | he
  · refine .inl ⟨e.source, List.mem_append_left _ ?_, hej⟩
    rw [← List.map_append]
    exact List.mem_map_of_mem he
  rcases List.mem_append.mp he with he | he
  · exact .inl ⟨e.source, List.mem_append_right _ (List.mem_map_of_mem he), hej⟩
  · cases List.mem_singleton.mp he
    refine .inr ⟨U.normal b, hU.symm _ _ h.key hKb hej, ?_⟩
    exact .seed ((hU.alike _ _ hKb hej).headerNeeds hneed)

/-- The declaration itself, when all its references are known. -/
theorem self_finished (h : U.Stages K o n k d r r₁ r₂ ts₁ ts₂ es₁ es₂) (hU : U.Coherent K)
    (hrecord : U.declaration o n k = some { d with members := ms }) (hasked : asked (.type k)) :
    U.Finished K o n asked r (r₂.setMembers k ms) { d with members := ms } := by
  have hsource : ({ d with members := ms } : TypeDeclaration τ).source = k := h.source
  constructor
  · rw [hsource]
    exact h.key
  · rw [hsource]
    exact h.fresh
  · rw [hsource]
    exact .seed hasked
  · rw [hsource]
    rintro i (hh | hm)
    · exact setMembers_has (h.members.has (h.registered_has hU (h.headerHas i hh)))
    · exact setMembers_has (h.membersHas i hm)
  · rwa [← h.source] at hrecord

/-- No two of the declarations that the stages add have one key. -/
theorem finished_distinct (h : U.Stages K o n k d r r₁ r₂ ts₁ ts₂ es₁ es₂) (hU : U.Coherent K) :
    (ts₁ ++ { d with members := ms } :: ts₂).Pairwise
      fun e e' => (e.source == e'.source) = false := by
  have hfar : ∀ e ∈ r₁.types ++ [d], ∀ e' ∈ ts₂, (e.source == e'.source) = false := by
    intro e he e' he'
    rw [← Bool.not_eq_true]
    intro hee
    refine (h.members.finished e' he').fresh ⟨e, List.mem_append_left _ ?_, hee⟩
    rwa [h.registered_types hU, ← List.append_assoc, ← h.header_types]
  rw [List.pairwise_append, List.pairwise_cons]
  refine ⟨h.header.distinct, ⟨?_, h.members.distinct⟩, ?_⟩
  · exact hfar d (List.mem_append_right _ (List.mem_singleton_self d))
  · intro e he e' he'
    rcases List.mem_cons.mp he' with rfl | he'
    · rw [h.source]
      exact h.header_ne hU e he
    · refine hfar e (List.mem_append_left _ ?_) e' he'
      rw [h.header_types]
      exact List.mem_append_right _ he

/-- The stages of a declaration together are growth. -/
theorem adds (h : U.Stages K o n k d r r₁ r₂ ts₁ ts₂ es₁ es₂) (hU : U.Coherent K)
    (hrecord : U.declaration o n k = some { d with members := ms }) (hasked : asked (.type k)) :
    U.Adds K o n asked r (r₂.setMembers k ms) (ts₁ ++ { d with members := ms } :: ts₂)
      (es₁ ++ es₂) := by
  have hseed : U.Reach o r.Knows asked (.type k) := .seed hasked
  have hclaimed : ∀ j, r.Knows j → (r.claimType (U.begun o k)).Knows j :=
    fun _ hj => h.claimed_knows.mpr (.inl hj)
  have hheader : ∀ i, U.Reach o (r.claimType (U.begun o k)).Knows (U.HeaderNeeds o k) i →
      U.Reach o r.Knows asked i :=
    fun _ hi => hi.bind hclaimed fun _ hn => .step hseed h.fresh (.inl hn)
  have hmembers : ∀ i, U.Reach o (r₁.registerType d).Knows (U.MemberNeeds o k) i →
      U.Reach o r.Knows asked i :=
    fun _ hi => hi.bind (fun _ hj => h.knows_of_old hU hj) fun _ hn =>
      .step hseed h.fresh (.inr hn)
  have henums : r₁.enums = r.enums ++ es₁ := h.header.enums_eq
  constructor
  · change r₂.options = r.options
    rw [h.members.options_eq]
    exact h.header.options_eq
  · exact h.finished_inProgress hU
  · exact h.finished_types hU
  · change r₂.enums = _
    rw [h.members.enums_eq]
    change r₁.enums ++ es₂ = _
    rw [henums, List.append_assoc]
  · intro e he
    rcases List.mem_append.mp he with he | he
    · exact (h.header.finished e he).within (Nat.le_refl n) hclaimed hheader fun _ hi =>
        setMembers_has (h.members.has (h.registered_has hU hi))
    rcases List.mem_cons.mp he with rfl | he
    · exact h.self_finished hU hrecord hasked
    · exact (h.members.finished e he).within (Nat.le_refl n) (fun _ hj => h.knows_of_old hU hj)
        hmembers fun _ hi => setMembers_has hi
  · exact h.finished_distinct hU
  · have hlast := h.members.ordered
    rw [h.registered_inProgress hU, h.registered_types hU] at hlast
    rw [List.map_append, List.map_cons]
    refine (h.header_ordered hU).append ⟨fun b hb => ?_, ?_⟩
    · change U.emittedBase o d.source = some b at hb
      rw [h.source] at hb
      change _ ∨ U.LeadsTo o (U.normal b) d.source
      rw [h.source]
      exact h.self_ordered hU hb
    · simpa [List.append_assoc] using hlast
  · intro e he
    rcases List.mem_append.mp he with he | he
    · exact (h.header.listed e he).within (fun _ hd => hd) hheader
    · refine (h.members.listed e he).within (fun e' he' => ?_) hmembers
      change e' ∈ r₁.enums
      rw [henums]
      exact List.mem_append_left _ he'
  · rw [List.pairwise_append]
    refine ⟨h.header.distinctEnum, h.members.distinctEnum, fun e he e' he' => ?_⟩
    refine (h.members.listed e' he').fresh e ?_
    change e ∈ r₁.enums
    rw [henums]
    exact List.mem_append_right _ he

end Stages

end TypeProjection.Universe
