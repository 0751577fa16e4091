import TypeProjection.Proofs.Descent

/-!
# The texts of a declaration

The base, the interfaces, the parameters and the members of a declaration, each read from calls
that follow the readings. Together they ask for what the declaration needs, and for nothing else.
-/

namespace TypeProjection.Walk

open Universe

variable {τ : Type} [BEq τ] {U : Universe τ} {K : τ → Prop} {o : Options τ} {n : Nat}
  {c : Calls τ} {r : Registry τ}

omit [BEq τ] in
theorem mentions_iff {t : τ} {i : Item τ} :
    U.Mentions o t i ↔ U.emitted o t = true ∧ i = .type (U.normal t) ∨ U.Meets o t i := by
  constructor
  · intro h
    cases h with
    | self ht => exact .inl ⟨ht, rfl⟩
    | below hm => exact .inr hm
  · rintro (⟨ht, rfl⟩ | hm)
    · exact .self ht
    · exact .below hm

/-- A type that is built and then referred to is mentioned. -/
theorem Follow.buildThenResolve (hc : Follow U K o n c) {t : τ} (ht : U.emitted o t = true)
    (hr : U.Ready o r) :
    Ends false (c.build t) r fun x r₁ =>
      (∃ d, x = some d) ∧ Ends false (c.resolve t) r₁ fun s r₂ =>
        U.reading o n t = some s ∧ U.Serves K o n (U.Mentions o t) r r₂ := by
  have hk : U.skipped o t = false := by simpa using (Bool.and_eq_true_iff.mp ht).2
  refine (hc.build t r (isStructural_of_emitted ht) hr).mono ?_
  intro x r₁ hend
  obtain ⟨h₁, hx⟩ := hend
  rw [if_neg (Bool.eq_false_iff.mp hk)] at hx
  obtain ⟨d, hd, _⟩ := hx
  refine ⟨⟨d, hd⟩, (hc.resolve t r₁ (h₁.ready hr)).mono ?_⟩
  intro s r₂ hend
  obtain ⟨hs, h₂⟩ := hend
  exact ⟨hs, (h₁.trans h₂).congr fun i => mentions_iff⟩

/-- A skipped type is not built, and only an event is left of the attempt. -/
theorem Follow.buildSkipped (hc : Follow U K o n c) {t : τ} (ht : U.isStructural t = true)
    (hk : U.skipped o t = true) (hr : U.Ready o r) :
    Ends false (c.build t) r fun x r' => x = none ∧ U.Serves K o n (fun _ => False) r r' := by
  refine (hc.build t r ht hr).mono ?_
  intro x r' hend
  obtain ⟨h, hx⟩ := hend
  rw [if_pos hk] at hx
  refine ⟨hx, h.congr fun i => ?_⟩
  simp [Builds, emitted, hk]

theorem Follow.baseReference (hc : Follow U K o n c) (k : τ) (hr : U.Ready o r) :
    Ends false (baseReference U c k) r fun x r' =>
      U.baseText o (U.reading o n) k = some x.1 ∧ x.2 = U.emittedBase o k ∧
        U.Serves K o n (fun i => ∃ b, U.emittedBase o k = some b ∧ U.Mentions o b i) r r' := by
  have hdefault : ∀ {x : Option String × Option τ} {r₁ r₂ : Registry τ},
      U.emittedBase o k = none → U.Serves K o n (fun _ => False) r r₁ →
      x = (U.defaultBaseText o k, none) ∧ r₂ = r₁ →
      U.baseText o (U.reading o n) k = some x.1 ∧ x.2 = U.emittedBase o k ∧
        U.Serves K o n (fun i => ∃ b, U.emittedBase o k = some b ∧ U.Mentions o b i) r r₂ := by
    rintro x r₁ r₂ hb h₁ ⟨rfl, rfl⟩
    refine ⟨by simp [baseText, hb], hb.symm, h₁.congr fun i => ?_⟩
    simp [hb]
  unfold Walk.baseReference
  dsimp only
  cases hbase : U.base k with
  | none =>
    have hb : U.emittedBase o k = none := by simp [emittedBase, hbase]
    exact (ends_fromDefault hr.options).mono fun x r' h => hdefault hb (Serves.refl r) h
  | some b =>
    dsimp only
    cases hst : U.isStructural b with
    | false =>
      have hb : U.emittedBase o k = none := by simp [emittedBase, hbase, emitted, hst]
      exact (ends_fromDefault hr.options).mono fun x r' h => hdefault hb (Serves.refl r) h
    | true =>
      simp only [↓reduceIte, ends_bind]
      cases hk : U.skipped o b with
      | true =>
        have hb : U.emittedBase o k = none := by simp [emittedBase, hbase, emitted, hk]
        refine (hc.buildSkipped hst hk hr).mono ?_
        intro x r₁ hend
        obtain ⟨hx, h₁⟩ := hend
        subst hx
        exact (ends_fromDefault (h₁.ready hr).options).mono fun x r' h => hdefault hb h₁ h
      | false =>
        have he : U.emitted o b = true := by simp [emitted, hst, hk]
        have hb : U.emittedBase o k = some b := by simp [emittedBase, hbase, he]
        refine (hc.buildThenResolve he hr).mono ?_
        intro x r₁ hend
        obtain ⟨⟨d, hd⟩, h₁⟩ := hend
        subst hd
        simp only [ends_bind, ends_pure]
        refine h₁.mono ?_
        intro s r₂ hend
        obtain ⟨hs, h₂⟩ := hend
        refine ⟨?_, hb.symm, h₂.congr fun i => ?_⟩
        · simp [baseText, hb, hs]
        · simp [hb]

theorem Follow.interfaceReferencesFrom (hc : Follow U K o n c) (implied : List τ)
    {listed ts : List τ} (hr : U.Ready o r) :
    Ends false (interfaceReferencesFrom U c implied listed ts) r fun ss r' =>
      (U.survivingFrom o implied listed ts).mapM (U.reading o n) = some ss ∧
        U.Serves K o n (fun i => ∃ t ∈ U.survivingFrom o implied listed ts, U.Mentions o t i)
          r r' := by
  induction ts generalizing listed r with
  | nil => exact ⟨rfl, .nothing fun i => by simp [survivingFrom]⟩
  | cons t ts ih =>
    unfold Walk.interfaceReferencesFrom survivingFrom
    dsimp only
    cases hd : implied.contains (U.definition t) || listed.contains (U.definition t) with
    | true => exact ih hr
    | false =>
    cases hst : U.isStructural t with
    | false =>
      have he : U.emitted o t = false := by simp [emitted, hst]
      rw [he]
      exact ih hr
    | true =>
      simp only [Bool.false_eq_true, Bool.not_true, ↓reduceIte, ends_bind]
      cases hk : U.skipped o t with
      | true =>
        have he : U.emitted o t = false := by simp [emitted, hk]
        rw [he]
        refine (hc.buildSkipped hst hk hr).mono ?_
        intro x r₁ hend
        obtain ⟨hx, h₁⟩ := hend
        subst hx
        refine (ih (h₁.ready hr)).mono ?_
        intro ss r₂ hend
        obtain ⟨hss, h₂⟩ := hend
        refine ⟨hss, ?_⟩
        exact (h₁.trans h₂).congr fun i => by simp
      | false =>
        have he : U.emitted o t = true := by simp [emitted, hst, hk]
        simp only [he, ↓reduceIte]
        refine (hc.buildThenResolve he hr).mono ?_
        intro x r₁ hend
        obtain ⟨⟨d, hd⟩, h₁⟩ := hend
        subst hd
        simp only [ends_bind, ends_pure]
        refine h₁.mono ?_
        intro s r₂ hend
        obtain ⟨hs, h₂⟩ := hend
        refine (ih (h₂.ready hr)).mono ?_
        intro ss r₃ hend
        obtain ⟨hss, h₃⟩ := hend
        refine ⟨?_, ?_⟩
        · simp [hs, hss]
        · exact (h₂.trans h₃).congr fun i => by simp

theorem Follow.interfaceReferences (hc : Follow U K o n c) (k : τ) (hr : U.Ready o r) :
    Ends false (interfaceReferences U c k (U.emittedBase o k)) r fun ss r' =>
      U.interfaceTexts o (U.reading o n) k = some ss ∧
        U.Serves K o n (fun i => ∃ ts, U.survivors o k = some ts ∧ ∃ t ∈ ts, U.Mentions o t i)
          r r' := by
  unfold Walk.interfaceReferences interfaceTexts survivors
  rw [ends_bind, ends_implied]
  cases U.impliedDefinitions (U.interfaces k) (U.emittedBase o k) with
  | none => rfl
  | some implied =>
    refine (hc.interfaceReferencesFrom implied hr).mono ?_
    intro ss r' hend
    obtain ⟨hss, h⟩ := hend
    refine ⟨hss, ?_⟩
    exact h.congr fun i => by simp

theorem Follow.boundReferences (hc : Follow U K o n c) {bs : List τ} (hr : U.Ready o r) :
    Ends false (boundReferences U c bs) r fun ss r' =>
      U.boundTexts o (U.reading o n) bs = some ss ∧
        U.Serves K o n (fun i => ∃ b ∈ bs.filter (U.keptBound o), U.Mentions o b i) r r' := by
  unfold boundTexts
  induction bs generalizing r with
  | nil => exact ⟨rfl, .nothing fun i => by simp⟩
  | cons b bs ih =>
    unfold Walk.boundReferences
    -- A bound that is kept is mentioned, whether or not it had to be built first.
    have hkept : ∀ {r₁ : Registry τ}, U.keptBound o b = true →
        Ends false (c.resolve b) r₁ (fun s r₂ =>
          U.reading o n b = some s ∧ U.Serves K o n (U.Mentions o b) r r₂) →
        Ends false (do
          let reference ← c.resolve b
          let others ← Walk.boundReferences U c bs
          return if reference == fallbackReference then others else reference :: others) r₁
          fun ss r' =>
            (((b :: bs).filter (U.keptBound o)).mapM (U.reading o n)).map
                (fun refs => refs.filter (· != fallbackReference)) = some ss ∧
              U.Serves K o n (fun i => ∃ b' ∈ (b :: bs).filter (U.keptBound o), U.Mentions o b' i)
                r r' := by
      intro r₁ hb h₁
      simp only [ends_bind, ends_pure]
      refine h₁.mono ?_
      intro s r₂ hend
      obtain ⟨hs, h₂⟩ := hend
      refine (ih (h₂.ready hr)).mono ?_
      intro ss r₃ hend
      obtain ⟨hss, h₃⟩ := hend
      refine ⟨?_, ?_⟩
      · obtain ⟨refs, hrefs, rfl⟩ := Option.map_eq_some_iff.mp hss
        rw [List.filter_cons_of_pos hb, List.mapM_cons, hs, hrefs]
        cases hf : s == fallbackReference <;> simp [bne, hf]
      · rw [List.filter_cons_of_pos hb]
        exact (h₂.trans h₃).congr fun i => by simp
    cases hst : U.isStructural b with
    | false =>
      have hm : ∀ i, U.Mentions o b i ↔ U.Meets o b i := fun i => by
        rw [mentions_iff]
        simp [emitted, hst]
      refine hkept (by simp [keptBound, hst]) ?_
      refine (hc.resolve b r hr).mono ?_
      intro s r₁ hend
      obtain ⟨hs, h₁⟩ := hend
      exact ⟨hs, h₁.congr hm⟩
    | true =>
      rw [if_pos rfl]
      simp only [ends_bind, ends_pure]
      cases hk : U.skipped o b with
      | true =>
        refine (hc.buildSkipped hst hk hr).mono ?_
        intro x r₁ hend
        obtain ⟨hx, h₁⟩ := hend
        subst hx
        refine (ih (h₁.ready hr)).mono ?_
        intro ss r₂ hend
        obtain ⟨hss, h₂⟩ := hend
        rw [List.filter_cons_of_neg (by simp [keptBound, hst, hk])]
        exact ⟨hss, (h₁.trans h₂).congr fun i => by simp⟩
      | false =>
        have he : U.emitted o b = true := by simp [emitted, hst, hk]
        refine (hc.buildThenResolve he hr).mono ?_
        intro x r₁ hend
        obtain ⟨⟨d, hd⟩, h₁⟩ := hend
        subst hd
        exact hkept (by simp [keptBound, hk]) h₁

/-- What the constraint of a parameter asks for. -/
def Constrains (U : Universe τ) (o : Options τ) (p : τ) (i : Item τ) : Prop :=
  (∃ b ∈ (U.bounds p).filter (U.keptBound o), U.Mentions o b i) ∨
    ∃ a ∈ U.alternatives p, U.Meets o a i

theorem Follow.typeParameter (hc : Follow U K o n c) (asInterface : Bool) (p : τ)
    (hr : U.Ready o r) :
    Ends false (typeParameter U c asInterface p) r fun s r' =>
      U.readParameter o (U.reading o n) asInterface p = some s ∧
        U.Serves K o n (Constrains U o p) r r' := by
  unfold Walk.typeParameter
  simp only [ends_bind, ends_renamed, ends_pure, hr.options]
  refine ends_reportNotes fun es => ?_
  have hr' := hr.withEvents es
  refine (hc.boundReferences hr').mono ?_
  intro bounds r₁ hend
  obtain ⟨hb, h₁⟩ := hend
  refine ends_reportNotes fun es' => ?_
  have hr₁ := (h₁.ready hr').withEvents es'
  refine (hc.resolveAll (U.alternatives p) hr₁).mono ?_
  intro alternatives r₂ hend
  obtain ⟨ha, h₂⟩ := hend
  refine ⟨?_, ?_⟩
  · unfold readParameter
    rw [hb, ha]
    rfl
  · exact h₁.fromEvents.trans h₂.fromEvents

theorem Follow.typeParameters (hc : Follow U K o n c) (asInterface : Bool) (k : τ)
    (hr : U.Ready o r) :
    Ends false (typeParameters U c asInterface k) r fun ss r' =>
      U.parameterTexts o (U.reading o n) asInterface k = some ss ∧
        U.Serves K o n (fun i => U.isDefinition k = true ∧
          ∃ p ∈ U.arguments k, Constrains U o p i) r r' := by
  unfold Walk.typeParameters parameterTexts
  cases hd : U.isDefinition k with
  | true =>
    simp only [↓reduceIte, true_and]
    exact ends_mapM (fun p _ r hr => hc.typeParameter asInterface p hr) hr
  | false => exact ⟨rfl, .nothing fun i hi => Bool.false_ne_true hi.1⟩

theorem Follow.memberDeclarations (hc : Follow U K o n c) (k : τ) (hr : U.Ready o r) :
    Ends false (memberDeclarations U c k) r fun ms r' =>
      (U.members k).mapM (readMember (U.reading o n)) = some ms ∧
        U.Serves K o n (U.MemberNeeds o k) r r' := by
  unfold Walk.memberDeclarations
  rw [ends_bind]
  refine ends_reportNotes fun es => ?_
  have hmember : ∀ m ∈ U.members k, ∀ r, U.Ready o r →
      Ends false (do return (⟨m.1, ← c.resolve m.2⟩ : MemberDeclaration)) r fun d r' =>
        readMember (U.reading o n) m = some d ∧ U.Serves K o n (U.Meets o m.2) r r' := by
    intro m _ r hr
    rw [ends_bind]
    refine (hc.resolve m.2 r hr).mono ?_
    intro s r' hend
    obtain ⟨hs, h⟩ := hend
    refine ⟨?_, h⟩
    rw [readMember, hs]
    rfl
  refine (ends_mapM hmember (hr.withEvents es)).mono ?_
  intro ms r' hend
  obtain ⟨hms, h⟩ := hend
  exact ⟨hms, h.fromEvents⟩

/-- A header needs what its parts ask for. -/
theorem headerNeeds_iff {k : τ} {i : Item τ} :
    U.HeaderNeeds o k i ↔
      ((∃ b, U.emittedBase o k = some b ∧ U.Mentions o b i) ∨
        ∃ ts, U.survivors o k = some ts ∧ ∃ t ∈ ts, U.Mentions o t i) ∨
      (U.isDefinition k = true ∧ ∃ p ∈ U.arguments k, Constrains U o p i) := by
  constructor
  · intro h
    cases h with
    | base hb hm => exact .inl (.inl ⟨_, hb, hm⟩)
    | interface hs ht hm => exact .inl (.inr ⟨_, hs, _, ht, hm⟩)
    | bound hd hp hb hm => exact .inr ⟨hd, _, hp, .inl ⟨_, hb, hm⟩⟩
    | alternative hd hp ha hm => exact .inr ⟨hd, _, hp, .inr ⟨_, ha, hm⟩⟩
  · rintro ((⟨b, hb, hm⟩ | ⟨ts, hs, t, ht, hm⟩) | ⟨hd, p, hp, ⟨b, hb, hm⟩ | ⟨a, ha, hm⟩⟩)
    · exact .base hb hm
    · exact .interface hs ht hm
    · exact .bound hd hp hb hm
    · exact .alternative hd hp ha hm

end TypeProjection.Walk
