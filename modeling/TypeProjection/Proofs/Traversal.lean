import TypeProjection.Proofs.Growth

/-!
# Properties of registries that a walk keeps

A property is quiet if reports and new enumerations leave it alone, and steady if headers and
members do so too. The steps of a walk keep a quiet property when the calls that they make do; only
the stages of a declaration have to be answered for separately, and of those a steady property
leaves the claim. Read strictly, the same statements say that a step ends whenever its calls do,
and that it makes them at registries with the property only.
-/

namespace TypeProjection

namespace Universe

variable {τ : Type}

/-- A type that the reference to another may be written from: a member of a union, an element, a
key, a value, an item of a tuple or a generic argument. -/
inductive Part (U : Universe τ) (t : τ) : τ → Prop
  | member {p : τ} : p ∈ U.union t → Part U t p
  | element {p : τ} : U.element t = some p → Part U t p
  | key {p v : τ} : U.keyValue t = some (p, v) → Part U t p
  | value {k p : τ} : U.keyValue t = some (k, p) → Part U t p
  | item {p : τ} {ts : List τ} : U.tuple t = some ts → p ∈ ts → Part U t p
  | argument {p : τ} : U.isConstructed t = true → p ∈ U.arguments t → Part U t p

/-- A set of types that every question about one of them stays in. -/
structure Closes (U : Universe τ) (D : τ → Prop) : Prop where
  definition : ∀ t, D t → D (U.definition t)
  part : ∀ t, D t → ∀ p, U.Part t p → D p
  base : ∀ t, D t → ∀ b, U.base t = some b → D b
  interfaces : ∀ t, D t → ∀ i ∈ U.interfaces t, D i
  arguments : ∀ t, D t → ∀ a ∈ U.arguments t, D a
  bounds : ∀ t, D t → ∀ b ∈ U.bounds t, D b
  alternatives : ∀ t, D t → ∀ a ∈ U.alternatives t, D a
  members : ∀ t, D t → ∀ m ∈ U.members t, D m.2

variable [BEq τ]

/-- Whatever a walk with some options does to a registry, apart from declaring a type, leaves the
property alone. -/
structure Quiet (U : Universe τ) (o : Options τ) (P : Registry τ → Prop) : Prop where
  options : ∀ r, P r → r.options = o
  report : ∀ r e, P r → P (r.report e)
  registerEnum : ∀ r t, r.findEnum t = none → P r → P (r.registerEnum (U.enumeration o t))

/-- Whatever a walk with some options does to a registry, apart from claiming a type, leaves the
property alone. -/
structure Steady (U : Universe τ) (o : Options τ) (P : Registry τ → Prop) : Prop
    extends Quiet U o P where
  placeType : ∀ r k base interfaces, P r → P (r.claimType (U.headed o k base interfaces []))
  registerType : ∀ r k base interfaces parameters, P r →
    P (r.registerType (U.headed o k base interfaces parameters))
  setMembers : ∀ r k ms, P r → P (r.setMembers k ms)

end Universe

namespace Walk

open Universe

variable {τ α : Type} [BEq τ] {U : Universe τ} {o : Options τ} {strict : Bool}
  {P : Registry τ → Prop} {A B D : τ → Prop} {c : Calls τ} {r : Registry τ}

/-- Calls that keep a property: resolving does for the types `A`, and building for the types `B`. -/
structure Keeps (strict : Bool) (P : Registry τ → Prop) (A B : τ → Prop) (c : Calls τ) : Prop where
  resolve : ∀ t r, A t → P r → Ends strict (c.resolve t) r fun _ => P
  build : ∀ t r, B t → P r → Ends strict (c.build t) r fun _ => P

omit [BEq τ] in
theorem Keeps.mono {A' B' : τ → Prop} (hc : Keeps strict P A B c) (hA : ∀ t, A' t → A t)
    (hB : ∀ t, B' t → B t) : Keeps strict P A' B' c :=
  ⟨fun t r ht => hc.resolve t r (hA t ht), fun t r ht => hc.build t r (hB t ht)⟩

omit [BEq τ] in
theorem Keeps.resolveAll (hc : Keeps strict P A B c) {ts : List τ} (hts : ∀ t ∈ ts, A t)
    (hr : P r) : Ends strict (ts.mapM c.resolve) r fun _ => P :=
  ends_mapM_keeps (fun t ht r => hc.resolve t r (hts t ht)) hr

theorem keeps_reportNotes (hP : U.Quiet o P) (notes : List String) (hr : P r) :
    Ends strict (reportNotes notes) r fun _ => P := by
  unfold reportNotes
  induction notes generalizing r with
  | nil => exact hr
  | cons note notes ih =>
    change Ends strict (report (.unresolved note) >>= fun _ =>
      notes.forM fun n => report (.unresolved n)) r fun _ => P
    simp only [ends_bind, ends_report]
    exact ih (hP.report r _ hr)

theorem keeps_buildEnum (hP : U.Quiet o P) (t : τ) (hr : P r) :
    Ends strict (buildEnum U t) r fun _ => P := by
  unfold buildEnum
  simp only [ends_bind, ends_isSkipped]
  cases r.options.skips (U.displayName t) with
  | true => exact hP.report r _ hr
  | false =>
    simp only [Bool.false_eq_true, ↓reduceIte, ends_bind, ends_get]
    cases hf : r.findEnum t with
    | some d => exact hr
    | none =>
      simp only [ends_bind, ends_renamed, ends_modify, ends_report, ends_pure, hP.options r hr]
      exact hP.report _ _ (hP.registerEnum r t hf hr)

omit [BEq τ] in
theorem Keeps.structureReference (hc : Keeps strict P A B c) {t : τ} (ht : B t)
    (hparts : ∀ p, U.Part t p → A p) (hr : P r) :
    Ends strict (structureReference U c t) r fun _ => P := by
  unfold Walk.structureReference
  rw [ends_bind]
  refine (hc.build t r ht hr).mono fun x r₁ h₁ => ?_
  cases x with
  | none => exact h₁
  | some d =>
    cases hcon : U.isConstructed t with
    | true =>
      simp only [↓reduceIte, ends_bind, ends_pure]
      exact hc.resolveAll (fun p hp => hparts p (.argument hcon hp)) h₁
    | false =>
      cases U.isDefinition t with
      | true => exact h₁
      | false => exact h₁

theorem Keeps.resolveStep (hc : Keeps strict P A B c) (hP : U.Quiet o P) {t : τ}
    (ht : U.isStructural t = true → B t) (hparts : ∀ p, U.Part t p → A p) (hr : P r) :
    Ends strict (resolveStep U c t) r fun _ => P := by
  have hfits := U.shape_fits o t
  unfold Ends
  rw [resolveStep_eq, hP.options r hr]
  change Ends strict (resolveShape U c t (U.shape o t)) r fun _ => P
  cases hs : U.shape o t with
  | parameter => exact hr
  | enumeration =>
    simp only [resolveShape, ends_bind]
    refine (keeps_buildEnum hP t hr).mono fun x r₁ h₁ => ?_
    cases x with
    | none => exact h₁
    | some d => exact h₁
  | overridden reference => exact hr
  | scalar kind => exact hr
  | union ts =>
    rw [hs] at hfits
    cases hfits
    simp only [resolveShape, ends_bind, ends_pure]
    exact hc.resolveAll (fun p hp => hparts p (.member hp)) hr
  | sequence e =>
    rw [hs] at hfits
    simp only [resolveShape, ends_bind, ends_pure]
    exact hc.resolve e r (hparts e (.element hfits)) hr
  | mapping k v =>
    rw [hs] at hfits
    simp only [resolveShape, ends_bind, ends_pure]
    refine (hc.resolve k r (hparts k (.key hfits)) hr).mono fun _ r₁ h₁ => ?_
    exact hc.resolve v r₁ (hparts v (.value hfits)) h₁
  | tuple ts =>
    rw [hs] at hfits
    simp only [resolveShape, ends_bind, ends_pure]
    exact hc.resolveAll (fun p hp => hparts p (.item hfits hp)) hr
  | declared => exact hc.structureReference (ht (isStructural_of_shape hs)) hparts hr
  | unknown => exact hr

/-- The base that a header goes on with is the base of the type. -/
theorem Keeps.baseReference (hc : Keeps strict P D B c) (hP : U.Quiet o P)
    (hB : ∀ t, D t → U.isStructural t = true → B t) {k : τ}
    (hbase : ∀ b, U.base k = some b → D b) (hr : P r) :
    Ends strict (baseReference U c k) r fun x r' =>
      P r' ∧ ∀ b, x.2 = some b → U.base k = some b := by
  have hdefault : ∀ {x : Option String × Option τ} {y : Option τ} {r₁ r₂ : Registry τ}, P r₁ →
      x = (U.defaultBaseText o k, none) ∧ r₂ = r₁ → P r₂ ∧ ∀ b, x.2 = some b → y = some b := by
    rintro x y r₁ r₂ h₁ ⟨rfl, rfl⟩
    exact ⟨h₁, fun b hb => nomatch hb⟩
  unfold Walk.baseReference
  cases hb : U.base k with
  | none => exact (ends_fromDefault (hP.options r hr)).mono fun _ _ h => hdefault hr h
  | some b =>
    dsimp only
    cases hst : U.isStructural b with
    | false => exact (ends_fromDefault (hP.options r hr)).mono fun _ _ h => hdefault hr h
    | true =>
      simp only [↓reduceIte, ends_bind]
      refine (hc.build b r (hB b (hbase b hb) hst) hr).mono fun x r₁ h₁ => ?_
      cases x with
      | none => exact (ends_fromDefault (hP.options r₁ h₁)).mono fun _ _ h => hdefault h₁ h
      | some d =>
        simp only [ends_bind, ends_pure]
        refine (hc.resolve b r₁ (hbase b hb) h₁).mono fun s r₂ h₂ => ⟨h₂, ?_⟩
        exact fun _ he => he

theorem Keeps.interfaceReferencesFrom (hc : Keeps strict P D B c)
    (hB : ∀ t, D t → U.isStructural t = true → B t) (implied : List τ) {listed ts : List τ}
    (hts : ∀ t ∈ ts, D t) (hr : P r) :
    Ends strict (interfaceReferencesFrom U c implied listed ts) r fun _ => P := by
  induction ts generalizing listed r with
  | nil => exact hr
  | cons t ts ih =>
    have hrest : ∀ {listed : List τ} {r : Registry τ}, P r →
        Ends strict (Walk.interfaceReferencesFrom U c implied listed ts) r fun _ => P :=
      fun hr => ih (fun s hs => hts s (List.mem_cons_of_mem t hs)) hr
    have ht := hts t (List.mem_cons_self ..)
    unfold Walk.interfaceReferencesFrom
    dsimp only
    cases implied.contains (U.definition t) || listed.contains (U.definition t) with
    | true => exact hrest hr
    | false =>
    cases hst : U.isStructural t with
    | false => exact hrest hr
    | true =>
      simp only [Bool.false_eq_true, Bool.not_true, ↓reduceIte, ends_bind]
      refine (hc.build t r (hB t ht hst) hr).mono fun x r₁ h₁ => ?_
      cases x with
      | none => exact hrest h₁
      | some d =>
        simp only [ends_bind, ends_pure]
        refine (hc.resolve t r₁ ht h₁).mono fun s r₂ h₂ => ?_
        exact hrest h₂

theorem impliedDefinitions_isSome {candidates : List τ} {base : Option τ}
    (hcandidates : ∀ t ∈ candidates, (U.supertypes t).isSome = true)
    (hbase : ∀ b, base = some b → (U.supertypes b).isSome = true) :
    (U.impliedDefinitions candidates base).isSome = true := by
  have hall : (candidates.mapM U.supertypes).isSome = true := by
    induction candidates with
    | nil => rfl
    | cons t ts ih =>
      obtain ⟨ds, hds⟩ := Option.isSome_iff_exists.mp (hcandidates t (List.mem_cons_self ..))
      obtain ⟨dss, hdss⟩ := Option.isSome_iff_exists.mp
        (ih fun s hs => hcandidates s (List.mem_cons_of_mem t hs))
      rw [List.mapM_cons, hds, hdss]
      rfl
  obtain ⟨dss, hdss⟩ := Option.isSome_iff_exists.mp hall
  unfold impliedDefinitions
  cases base with
  | none =>
    rw [hdss]
    rfl
  | some b =>
    obtain ⟨above, habove⟩ := Option.isSome_iff_exists.mp (hbase b rfl)
    rw [hdss]
    simp only [habove]
    rfl

/-- A strict walk needs all supertypes that bear on the interfaces. -/
theorem Keeps.interfaceReferences (hc : Keeps strict P D B c)
    (hB : ∀ t, D t → U.isStructural t = true → B t) {k : τ} {base : Option τ}
    (hsuper : strict = true → (U.impliedDefinitions (U.interfaces k) base).isSome = true)
    (hts : ∀ t ∈ U.interfaces k, D t) (hr : P r) :
    Ends strict (interfaceReferences U c k base) r fun _ => P := by
  unfold Walk.interfaceReferences
  rw [ends_bind, ends_implied]
  cases hi : U.impliedDefinitions (U.interfaces k) base with
  | none =>
    cases strict with
    | false => rfl
    | true =>
      have := hsuper rfl
      rw [hi] at this
      cases this
  | some implied => exact hc.interfaceReferencesFrom hB implied hts hr

omit [BEq τ] in
theorem Keeps.boundReferences (hc : Keeps strict P D B c)
    (hB : ∀ t, D t → U.isStructural t = true → B t) {bs : List τ} (hbs : ∀ b ∈ bs, D b)
    (hr : P r) : Ends strict (boundReferences U c bs) r fun _ => P := by
  induction bs generalizing r with
  | nil => exact hr
  | cons b bs ih =>
    have hrest : ∀ {r : Registry τ}, P r →
        Ends strict (Walk.boundReferences U c bs) r fun _ => P :=
      fun hr => ih (fun a ha => hbs a (List.mem_cons_of_mem b ha)) hr
    have hb := hbs b (List.mem_cons_self ..)
    have hkept : ∀ {r₁ : Registry τ}, P r₁ → Ends strict (do
        let reference ← c.resolve b
        let others ← Walk.boundReferences U c bs
        return if reference == fallbackReference then others else reference :: others) r₁
        fun _ => P := by
      intro r₁ h₁
      simp only [ends_bind, ends_pure]
      refine (hc.resolve b r₁ hb h₁).mono fun s r₂ h₂ => ?_
      exact hrest h₂
    unfold Walk.boundReferences
    cases hst : U.isStructural b with
    | false => exact hkept hr
    | true =>
      rw [if_pos rfl]
      simp only [ends_bind, ends_pure]
      refine (hc.build b r (hB b hb hst) hr).mono fun x r₁ h₁ => ?_
      cases x with
      | none => exact hrest h₁
      | some d => exact hkept h₁

theorem Keeps.typeParameter (hc : Keeps strict P D B c) (hP : U.Quiet o P)
    (hB : ∀ t, D t → U.isStructural t = true → B t) (asInterface : Bool) {p : τ}
    (hbounds : ∀ b ∈ U.bounds p, D b) (halternatives : ∀ a ∈ U.alternatives p, D a)
    (hr : P r) : Ends strict (typeParameter U c asInterface p) r fun _ => P := by
  unfold Walk.typeParameter
  simp only [ends_bind, ends_renamed, ends_pure]
  refine (keeps_reportNotes hP _ hr).mono fun _ r₁ h₁ => ?_
  refine (hc.boundReferences hB hbounds h₁).mono fun _ r₂ h₂ => ?_
  refine (keeps_reportNotes hP _ h₂).mono fun _ r₃ h₃ => ?_
  exact hc.resolveAll halternatives h₃

theorem Keeps.memberDeclarations (hc : Keeps strict P D B c) (hP : U.Quiet o P) {k : τ}
    (hmembers : ∀ m ∈ U.members k, D m.2) (hr : P r) :
    Ends strict (memberDeclarations U c k) r fun _ => P := by
  unfold Walk.memberDeclarations
  rw [ends_bind]
  refine (keeps_reportNotes hP _ hr).mono fun _ r₁ h₁ => ?_
  refine ends_mapM_keeps (fun m hm r hr => ?_) h₁
  simp only [ends_bind, ends_pure]
  exact hc.resolve m.2 r (hmembers m hm) hr

/-- A declaration leads from one property to another: the header is served with a third one from
the claim on, which placing the type among its supertypes leaves alone, and the members with a fourth
from the place in the registry on. -/
theorem Keeps.declareStages {P₁ P₂ : Registry τ → Prop} (hc₁ : Keeps strict P₁ D B c)
    (hc₂ : Keeps strict P₂ D B c) (hP : U.Quiet o P) (hP₁ : U.Quiet o P₁) (hP₂ : U.Quiet o P₂)
    (hD : U.Closes D) (hB : ∀ t, D t → U.isStructural t = true → B t)
    (hsuper : strict = true → ∀ t, D t → (U.supertypes t).isSome = true) {k : τ} (hk : D k)
    (ho : r.options = o) (hclaim : P₁ (r.claimType (U.begun o k)))
    (hplace : ∀ r base interfaces, P₁ r → P₁ (r.claimType (U.headed o k base interfaces [])))
    (hregister : ∀ r base interfaces parameters, P₁ r →
      P₂ (r.registerType (U.headed o k base interfaces parameters)))
    (hfill : ∀ r ms, P₂ r → P (r.setMembers k ms)) :
    Ends strict (declareType U c k) r fun _ => P := by
  unfold Walk.declareType
  simp only [ends_bind, ends_get, ends_renamed, ends_modify, ends_report, ends_pure, ho]
  refine (hc₁.baseReference hP₁ hB (hD.base k hk) hclaim).mono ?_
  intro base r₁ hend
  obtain ⟨h₁, hbase⟩ := hend
  have himplied : strict = true →
      (U.impliedDefinitions (U.interfaces k) base.2).isSome = true := fun hs =>
    impliedDefinitions_isSome (fun t ht => hsuper hs t (hD.interfaces k hk t ht))
      fun b hb => hsuper hs b (hD.base k hk b (hbase b hb))
  refine (hc₁.interfaceReferences hB himplied (hD.interfaces k hk) h₁).mono ?_
  intro interfaces r₂ h₂
  have hplaced := hplace r₂ base.1 interfaces h₂
  have hparameters : ∀ {asInterface : Bool} {r : Registry τ}, P₁ r →
      Ends strict (typeParameters U c asInterface k) r fun _ => P₁ := by
    intro asInterface r hr
    unfold Walk.typeParameters
    cases U.isDefinition k with
    | false => exact hr
    | true =>
      rw [if_pos rfl]
      refine ends_mapM_keeps (fun p hp r hr => ?_) hr
      have hDp := hD.arguments k hk p hp
      exact hc₁.typeParameter hP₁ hB asInterface (hD.bounds p hDp) (hD.alternatives p hDp) hr
  refine (hparameters hplaced).mono fun parameters r₃ h₃ => ?_
  have h₄ := hregister r₃ base.1 interfaces parameters h₃
  refine (hc₂.memberDeclarations hP₂ (hD.members k hk) h₄).mono fun ms r₅ h₅ => ?_
  exact hP.report _ _ (hfill r₅ ms h₅)

/-- A declaration keeps a steady property that its claim has. -/
theorem Keeps.declareType (hc : Keeps strict P D D c) (hP : U.Steady o P) (hD : U.Closes D)
    (hsuper : strict = true → ∀ t, D t → (U.supertypes t).isSome = true) {k : τ} (hk : D k)
    (ho : r.options = o) (hclaim : P (r.claimType (U.begun o k))) :
    Ends strict (declareType U c k) r fun _ => P :=
  hc.declareStages hc hP.toQuiet hP.toQuiet hP.toQuiet hD (fun _ ht _ => ht) hsuper hk ho hclaim
    (fun r => hP.placeType r k) (fun r => hP.registerType r k) fun r => hP.setMembers r k

/-- Building keeps a property if the declaration that it may have to make does. -/
theorem keeps_buildStep (hP : U.Quiet o P) {t : τ}
    (hnew : U.skipped o t = false → ¬ r.Knows (U.normal t) →
      Ends strict (Walk.declareType U c (U.normal t)) r fun _ => P) (hr : P r) :
    Ends strict (buildStep U c t) r fun _ => P := by
  unfold buildStep
  simp only [ends_bind, ends_isSkipped, hP.options r hr]
  change Ends strict (if U.skipped o t = true then _ else _) r _
  cases hs : U.skipped o t with
  | true => exact hP.report r _ hr
  | false =>
    simp only [Bool.false_eq_true, ↓reduceIte, ends_bind, ends_get]
    cases hf : r.findType (if U.isConstructed t then U.definition t else t) with
    | some d => exact hr
    | none =>
      simp only [ends_bind, ends_pure]
      exact hnew hs (Registry.findType_eq_none_iff.mp hf)

theorem Keeps.declareRoots (hc : Keeps strict P A B U.calls) (hP : U.Quiet o P) {roots : List τ}
    (hroots : ∀ t ∈ roots, U.isStructural t = true → B t) (hr : P r) :
    Ends strict (U.declareRoots roots) r fun _ => P := by
  unfold Universe.declareRoots
  induction roots generalizing r with
  | nil => exact hr
  | cons t roots ih =>
    change Ends strict (U.declareRoot t >>= fun _ => roots.forM U.declareRoot) r _
    have hroot : Ends strict (U.declareRoot t) r fun _ => P := by
      unfold declareRoot
      simp only [ends_ite, ends_bind, ends_pure]
      split
      · exact keeps_buildEnum hP t hr
      split
      · exact hc.build t r (hroots t (List.mem_cons_self ..) ‹_›) hr
      · exact hP.report r _ hr
    rw [ends_bind]
    exact hroot.mono fun _ r₁ h₁ => ih (fun s hs => hroots s (List.mem_cons_of_mem t hs)) h₁

end Walk

end TypeProjection
