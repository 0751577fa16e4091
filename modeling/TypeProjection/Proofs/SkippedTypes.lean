import TypeProjection.Proofs.LoadedWorlds
import TypeProjection.Proofs.ReferenceGrammar

/-!
# What skipping keeps out

A type is skipped by the display name with which it is found, and it is declared under its
definition. So an enumeration with a matching name is never registered, and a type with a matching
name only if it is generic and something that a run comes upon, a root or a type in a reference of
a registered declaration, is an instance of it whose own name does not match.
-/

namespace TypeProjection

namespace Universe

variable {τ : Type} {U : Universe τ} {K : τ → Prop} {o : Options τ} {roots : List τ}
  {r : Registry τ} {t u k : τ} {i : Item τ}

/-- If a definition is skipped and something that is declared under it is not, then that is an
instance of the definition. -/
theorem isConstructed_of_skipped (ht : U.skipped o t = false)
    (h : U.skipped o (U.normal t) = true) :
    U.isConstructed t = true ∧ U.normal t = U.definition t := by
  unfold normal at h ⊢
  cases hc : U.isConstructed t with
  | true => exact ⟨rfl, if_pos rfl⟩
  | false =>
    rw [hc, if_neg Bool.false_ne_true, ht] at h
    cases h

/-- The declaration that a type asks for when it is found: nothing if its own name matches. -/
inductive Asks (U : Universe τ) (o : Options τ) (t : τ) : Item τ → Prop
  | type : U.isStructural t = true → U.skipped o t = false → Asks U o t (.type (U.normal t))
  | enumeration : U.isEnum t = true → U.skipped o t = false → Asks U o t (.enumeration t)

theorem Asks.of_emitted (h : U.emitted o t = true) : U.Asks o t (.type (U.normal t)) :=
  .type (isStructural_of_emitted h) (by simpa using (Bool.and_eq_true_iff.mp h).2)

/-- What a reference meets is asked for by a type that stands in it. -/
theorem Meets.asks (h : U.Meets o t i) : ∃ u, U.Occurs o t u ∧ U.Asks o u i := by
  induction h with
  | @type t hs hk => exact ⟨t, .self, .type (isStructural_of_shape hs) hk⟩
  | @enumeration t hs hk => exact ⟨t, .self, .enumeration (isEnum_of_shape hs) hk⟩
  | part hp _ ih =>
    obtain ⟨u, hu, hi⟩ := ih
    exact ⟨u, .part hp hu, hi⟩

theorem Mentions.asks (h : U.Mentions o t i) : ∃ u, U.Occurs o t u ∧ U.Asks o u i := by
  cases h with
  | self ht => exact ⟨t, .self, .of_emitted ht⟩
  | below hm => exact hm.asks

theorem RootItem.asks (h : U.RootItem o roots i) : ∃ t ∈ roots, U.Asks o t i := by
  obtain ⟨t, ht, hi⟩ := h
  refine ⟨t, ht, ?_⟩
  split at hi
  · next he =>
    obtain ⟨hk, rfl⟩ := hi
    exact .enumeration he hk
  · obtain ⟨he, rfl⟩ := hi
    exact .of_emitted he

variable [BEq τ]

/-- What a declaration needs is asked for by a type that stands in one of its references. -/
theorem Needs.asks (h : U.Needs o k i) :
    ∃ t u, U.Refers o k t ∧ U.Occurs o t u ∧ U.Asks o u i := by
  have hrefers : ∃ t, U.Refers o k t ∧ ∃ u, U.Occurs o t u ∧ U.Asks o u i := by
    rcases h with hh | ⟨m, hm, hi⟩
    · cases hh with
      | base hb hi => exact ⟨_, .base hb, hi.asks⟩
      | interface hs ht hi => exact ⟨_, .interface hs ht, hi.asks⟩
      | bound hd hp hb hi => exact ⟨_, .bound hd hp hb, hi.asks⟩
      | alternative hd hp ha hi => exact ⟨_, .alternative hd hp ha, hi.asks⟩
    · exact ⟨_, .member hm, hi.asks⟩
  obtain ⟨t, ht, u, hu, hi⟩ := hrefers
  exact ⟨t, u, ht, hu, hi⟩

/-- Declarations of types that are alike refer to the same types. -/
theorem Alike.refers {x y : τ} (h : U.Alike x y) (hx : U.Refers o x t) : U.Refers o y t := by
  cases hx with
  | base hb => exact .base (h.emittedBase ▸ hb)
  | interface hs ht => exact .interface (h.survivors ▸ hs) ht
  | bound hd hp hb => exact .bound (h.isDefinition ▸ hd) (h.arguments ▸ hp) hb
  | alternative hd hp ha => exact .alternative (h.isDefinition ▸ hd) (h.arguments ▸ hp) ha
  | member hm => exact .member (h.members ▸ hm)

/-- The types that a run comes upon: the roots, and what stands in the references of the
declarations that it has registered. -/
inductive Encounters (U : Universe τ) (o : Options τ) (roots : List τ) (r : Registry τ) : τ → Prop
  | root {t : τ} : t ∈ roots → Encounters U o roots r t
  | reference {d : TypeDeclaration τ} {t u : τ} : d ∈ r.types → U.Refers o d.source t →
      U.Occurs o t u → Encounters U o roots r u

/-- Everything that the roots need is asked for by something that the run came upon. -/
theorem Populated.asks (hU : U.Coherent K) (h : U.Populated o roots r)
    (hi : U.Required o roots i) : ∃ t, U.Encounters o roots r t ∧ U.Asks o t i := by
  cases hi with
  | seed hs =>
    obtain ⟨t, ht, hi⟩ := hs.asks
    exact ⟨t, .root ht, hi⟩
  | @step k _ hk _ hn =>
    obtain ⟨t, u, ht, hu, hi⟩ := hn.asks
    obtain ⟨d, hd, hdk⟩ := h.typesFound k hk
    have halike := hU.alike _ _ (hk.key hU fun _ hj => hj.key hU) hdk
    exact ⟨u, .reference hd (halike.symm.refers ht) hu, hi⟩

end Universe

namespace Annotation.World

open Universe Definition

/-- After every run, no registered enumeration has a name that a skip pattern matches. Every
registered type was asked for by something that the run came upon and whose own name no pattern
matches; if the name of the registered type itself is matched, then that was an instance of it. -/
theorem skipped_by_own_name (w : World) {o : Options Value} {roots : List Value}
    {r : Registry Value} (h : w.types.collect o roots = some r) :
    (∀ e ∈ r.enums, o.skips (w.displayName e.source) = false) ∧
    ∀ d ∈ r.types, ∃ t, w.types.Encounters o roots r t ∧ w.types.isStructural t = true ∧
      o.skips (w.displayName t) = false ∧ d.source = w.types.normal t ∧
      (o.skips (w.displayName d.source) = true →
        t.isConstructed = true ∧ d.source = w.types.definition t) := by
  have hpopulated := populated_of_collect (types_coherent w) h
  constructor
  · intro e he
    obtain ⟨t, _, hasks⟩ :=
      hpopulated.asks (types_coherent w) (hpopulated.enumsRequired e he)
    generalize hi : Item.enumeration e.source = i at hasks
    cases hasks with
    | type => cases hi
    | enumeration _ hk =>
      cases hi
      exact hk
  · intro d hd
    obtain ⟨t, ht, hasks⟩ :=
      hpopulated.asks (types_coherent w) (hpopulated.typesRequired d hd)
    generalize hi : Item.type d.source = i at hasks
    cases hasks with
    | enumeration => cases hi
    | type hs hk =>
      have hsource : d.source = w.types.normal t := Item.type.inj hi
      refine ⟨t, ht, hs, hk, hsource, fun hskip => ?_⟩
      rw [hsource] at hskip ⊢
      exact isConstructed_of_skipped hk hskip

/-- A generic class, and a class that holds boxes of integers. -/
def boxModule : Definition.Source where
  postponed := false
  definitions := [
    .typeVar ⟨"T", "T", [], none, .invariant, false⟩,
    .cls (.mk "Box" ["Generic[T]"] [] "" [.field "item" "T" none]),
    .cls (.mk "Holder" [] [] "" [.field "box" "Box[int]" none])]

def boxWorld : World := (runAlone initial "models" boxModule).1

/-- Skip what the whole name of the class matches, and not that of an instance. -/
def boxOptions : Options Value :=
  { Options.default with skip := (Text.Pattern.parse "models\\.Box$").toOption.toList }

/-- The run with the holder as its root declares the class that is skipped. -/
theorem declared_box :
    ∃ r, boxWorld.types.collect boxOptions [.cls (.declared 1)] = some r ∧
      ∃ d ∈ r.types, boxWorld.displayName d.source = "models.Box" ∧
        boxOptions.skips (boxWorld.displayName d.source) = true := by
  have hrun : (boxWorld.types.collect boxOptions [.cls (.declared 1)]).map (fun r =>
      r.types.map fun d =>
        (boxWorld.displayName d.source, boxOptions.skips (boxWorld.displayName d.source))) =
      some [("models.Holder", false), ("models.Box", true)] := by decide +kernel
  obtain ⟨r, hr, hnames⟩ := Option.map_eq_some_iff.mp hrun
  have hbox : ("models.Box", true) ∈ r.types.map fun d =>
      (boxWorld.displayName d.source, boxOptions.skips (boxWorld.displayName d.source)) :=
    hnames ▸ List.mem_cons_of_mem _ (List.mem_singleton_self _)
  obtain ⟨d, hd, hname⟩ := List.mem_map.mp hbox
  rw [Prod.mk.injEq] at hname
  exact ⟨r, hr, d, hd, hname⟩

theorem skipped_by_own_name_box :
    ∃ r, boxWorld.types.collect boxOptions [.cls (.declared 1)] = some r ∧
      ∃ d ∈ r.types, boxOptions.skips (boxWorld.displayName d.source) = true ∧
        ∃ t, boxWorld.types.Encounters boxOptions [.cls (.declared 1)] r t ∧
          boxOptions.skips (boxWorld.displayName t) = false ∧
          t.isConstructed = true ∧ d.source = boxWorld.types.definition t := by
  obtain ⟨r, hr, d, hd, _, hskip⟩ := declared_box
  obtain ⟨t, ht, _, hk, _, hinstance⟩ := (skipped_by_own_name boxWorld hr).2 d hd
  exact ⟨r, hr, d, hd, hskip, t, ht, hk, hinstance hskip⟩

/-- A class can be declared although a pattern matches its name. -/
theorem skipped_not_always_absent :
    ¬ ∀ (w : World), w.Loaded → ∀ (o : Options Value) (roots : List Value) (r : Registry Value),
      w.types.collect o roots = some r →
        (∀ d ∈ r.types, o.skips (w.displayName d.source) = false) ∧
        ∀ e ∈ r.enums, o.skips (w.displayName e.source) = false := by
  intro hall
  obtain ⟨r, hr, d, hd, _, hskip⟩ := declared_box
  have habsent := (hall boxWorld (.alone "models" boxModule .initial) _ _ r hr).1 d hd
  rw [hskip] at habsent
  cases habsent

end Annotation.World

end TypeProjection
