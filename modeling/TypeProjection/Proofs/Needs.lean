import TypeProjection.Proofs.Coherence

/-!
# What a declaration needs

A declaration needs other declarations: those of its base, of the interfaces and bounds that it
names, and whatever the references in its header and its members meet. `Reach` follows these needs
from a set of seeds and does not go on from a stopped type. None of this mentions a registry, an
order of visits or a run.
-/

namespace TypeProjection

/-- What a run can declare: the type filed under a key, or an enumeration. -/
inductive Item (τ : Type) where
  | type (key : τ)
  | enumeration (t : τ)

namespace Universe

variable {τ : Type}

/-- The types whose references are parts of the reference to a type. -/
def parts (U : Universe τ) (o : Options τ) (t : τ) : List τ :=
  match U.shape o t with
  | .union ts => ts
  | .sequence e => [e]
  | .mapping k v => [k, v]
  | .tuple ts => ts
  | .declared => if !U.skipped o t && U.isConstructed t then U.arguments t else []
  | _ => []

/-- The declarations that the reference to a type names, in itself or in a part. -/
inductive Meets (U : Universe τ) (o : Options τ) : τ → Item τ → Prop
  | type {t : τ} : U.shape o t = .declared → U.skipped o t = false →
      Meets U o t (.type (U.normal t))
  | enumeration {t : τ} : U.shape o t = .enumeration → U.skipped o t = false →
      Meets U o t (.enumeration t)
  | part {t p : τ} {i : Item τ} : p ∈ U.parts o t → Meets U o p i → Meets U o t i

/-- A reference names the type itself, or what the references to its parts name. -/
theorem meets_iff {U : Universe τ} {o : Options τ} {t : τ} {i : Item τ} :
    U.Meets o t i ↔
      (U.shape o t = .declared ∧ U.skipped o t = false ∧ i = .type (U.normal t)) ∨
      (U.shape o t = .enumeration ∧ U.skipped o t = false ∧ i = .enumeration t) ∨
      ∃ p ∈ U.parts o t, U.Meets o p i := by
  constructor
  · intro h
    cases h with
    | type hs hk => exact .inl ⟨hs, hk, rfl⟩
    | enumeration hs hk => exact .inr (.inl ⟨hs, hk, rfl⟩)
    | part hp hm => exact .inr (.inr ⟨_, hp, hm⟩)
  · rintro (⟨hs, hk, rfl⟩ | ⟨hs, hk, rfl⟩ | ⟨p, hp, hm⟩)
    · exact .type hs hk
    · exact .enumeration hs hk
    · exact .part hp hm

/-- Is the type declared when it stands in a header? -/
def emitted (U : Universe τ) (o : Options τ) (t : τ) : Bool := U.isStructural t && !U.skipped o t

/-- What a type in a header needs: its own declaration, and what the reference to it names. -/
inductive Mentions (U : Universe τ) (o : Options τ) (t : τ) : Item τ → Prop
  | self : U.emitted o t = true → Mentions U o t (.type (U.normal t))
  | below {i : Item τ} : U.Meets o t i → Mentions U o t i

/-- The base that a header extends. -/
def emittedBase (U : Universe τ) (o : Options τ) (k : τ) : Option τ :=
  (U.base k).filter (U.emitted o)

/-- Is the reference to a bound asked for? A skipped structure is left out. -/
def keptBound (U : Universe τ) (o : Options τ) (b : τ) : Bool :=
  !(U.isStructural b && U.skipped o b)

theorem isStructural_of_emitted {U : Universe τ} {o : Options τ} {t : τ}
    (h : U.emitted o t = true) : U.isStructural t = true :=
  (Bool.and_eq_true_iff.mp h).1

theorem emitted_of_emittedBase {U : Universe τ} {o : Options τ} {k b : τ}
    (h : U.emittedBase o k = some b) : U.emitted o b = true :=
  (Option.filter_eq_some_iff.mp h).2

theorem Alike.emittedBase {U : Universe τ} {o : Options τ} {x y : τ} (h : U.Alike x y) :
    U.emittedBase o x = U.emittedBase o y := by
  unfold Universe.emittedBase
  rw [h.base]

variable [BEq τ]

/-- The definitions that need no mention beside a base and some candidates. -/
def impliedDefinitions (U : Universe τ) (candidates : List τ) (base : Option τ) :
    Option (List τ) := do
  let fromBase ← match base with
    | none => some []
    | some b => (U.supertypes b).map (U.definition b :: ·)
  let fromCandidates ← candidates.mapM U.supertypes
  return fromBase ++ fromCandidates.flatten

/-- The candidates that are neither implied nor listed before, and that are declared. -/
def survivingFrom (U : Universe τ) (o : Options τ) (implied : List τ) :
    List τ → List τ → List τ
  | _, [] => []
  | listed, t :: rest =>
    if implied.contains (U.definition t) || listed.contains (U.definition t) then
      survivingFrom U o implied listed rest
    else if U.emitted o t then t :: survivingFrom U o implied (U.definition t :: listed) rest
    else survivingFrom U o implied (U.definition t :: listed) rest

/-- The interfaces that a header lists. -/
def survivors (U : Universe τ) (o : Options τ) (k : τ) : Option (List τ) :=
  (U.impliedDefinitions (U.interfaces k) (U.emittedBase o k)).map fun implied =>
    U.survivingFrom o implied [] (U.interfaces k)

/-- What the header of a declaration needs. -/
inductive HeaderNeeds (U : Universe τ) (o : Options τ) (k : τ) : Item τ → Prop
  | base {b : τ} {i : Item τ} : U.emittedBase o k = some b → U.Mentions o b i →
      HeaderNeeds U o k i
  | interface {ts : List τ} {t : τ} {i : Item τ} : U.survivors o k = some ts → t ∈ ts →
      U.Mentions o t i → HeaderNeeds U o k i
  | bound {p b : τ} {i : Item τ} : U.isDefinition k = true → p ∈ U.arguments k →
      b ∈ (U.bounds p).filter (U.keptBound o) → U.Mentions o b i → HeaderNeeds U o k i
  | alternative {p a : τ} {i : Item τ} : U.isDefinition k = true → p ∈ U.arguments k →
      a ∈ U.alternatives p → U.Meets o a i → HeaderNeeds U o k i

/-- What the members of a declaration need. -/
def MemberNeeds (U : Universe τ) (o : Options τ) (k : τ) (i : Item τ) : Prop :=
  ∃ m ∈ U.members k, U.Meets o m.2 i

/-- What a declaration needs. -/
def Needs (U : Universe τ) (o : Options τ) (k : τ) (i : Item τ) : Prop :=
  U.HeaderNeeds o k i ∨ U.MemberNeeds o k i

/-- What is needed from the seeds on, without going on from a stopped type. -/
inductive Reach (U : Universe τ) (o : Options τ) (stop : τ → Prop) (seeds : Item τ → Prop) :
    Item τ → Prop
  | seed {i : Item τ} : seeds i → Reach U o stop seeds i
  | step {k : τ} {i : Item τ} : Reach U o stop seeds (.type k) → ¬ stop k → U.Needs o k i →
      Reach U o stop seeds i

/-- The header of one type needs another, directly or on the way, without coming back to the
first. -/
def LeadsTo (U : Universe τ) (o : Options τ) (k x : τ) : Prop :=
  ∃ j, (j == x) = true ∧ U.Reach o (fun y => (k == y) = true) (U.HeaderNeeds o k) (.type j)

/-- What building a structure asks for. -/
def Builds (U : Universe τ) (o : Options τ) (t : τ) (i : Item τ) : Prop :=
  U.emitted o t = true ∧ i = .type (U.normal t)

/-- What listing an enumeration asks for. -/
def Enumerates (U : Universe τ) (o : Options τ) (t : τ) (i : Item τ) : Prop :=
  U.skipped o t = false ∧ i = .enumeration t

/-- What the roots ask for by themselves. -/
def RootItem (U : Universe τ) (o : Options τ) (roots : List τ) (i : Item τ) : Prop :=
  ∃ t ∈ roots, if U.isEnum t then U.Enumerates o t i else U.Builds o t i

/-- What the roots need, directly or through other declarations. -/
def Required (U : Universe τ) (o : Options τ) (roots : List τ) : Item τ → Prop :=
  U.Reach o (fun _ => False) (U.RootItem o roots)

section Reach

variable {U : Universe τ} {o : Options τ} {stop stop' : τ → Prop} {seeds seeds' : Item τ → Prop}
  {i : Item τ}

/-- Seeds may be replaced by what reaches them, and fewer stops reach more. -/
theorem Reach.bind (h : U.Reach o stop seeds i) (hstop : ∀ k, stop' k → stop k)
    (hseeds : ∀ j, seeds j → U.Reach o stop' seeds' j) : U.Reach o stop' seeds' i := by
  induction h with
  | seed hs => exact hseeds _ hs
  | step _ hk hn ih => exact .step ih (fun hk' => hk (hstop _ hk')) hn

theorem Reach.mono (h : U.Reach o stop seeds i) (hstop : ∀ k, stop' k → stop k)
    (hseeds : ∀ j, seeds j → seeds' j) : U.Reach o stop' seeds' i :=
  h.bind hstop fun j hj => .seed (hseeds j hj)

end Reach

section Keys

variable {U : Universe τ} {o : Options τ} {K : τ → Prop}

theorem Meets.key (hU : U.Coherent K) {t k : τ} (h : U.Meets o t (.type k)) : K k := by
  generalize hi : Item.type k = i at h
  induction h with
  | type hs _ =>
    cases hi
    exact hU.structural _ (isStructural_of_shape hs)
  | enumeration _ _ => cases hi
  | part _ _ ih => exact ih hi

theorem Mentions.key (hU : U.Coherent K) {t k : τ} (h : U.Mentions o t (.type k)) : K k := by
  cases h with
  | self ht => exact hU.structural _ (isStructural_of_emitted ht)
  | below hm => exact hm.key hU

theorem RootItem.key (hU : U.Coherent K) {roots : List τ} {k : τ}
    (h : U.RootItem o roots (.type k)) : K k := by
  obtain ⟨t, _, hi⟩ := h
  split at hi
  · cases hi.2
  · cases hi.2
    exact hU.structural t (isStructural_of_emitted hi.1)

theorem HeaderNeeds.key (hU : U.Coherent K) {j k : τ} (h : U.HeaderNeeds o j (.type k)) : K k := by
  cases h with
  | base _ hm => exact hm.key hU
  | interface _ _ hm => exact hm.key hU
  | bound _ _ _ hm => exact hm.key hU
  | alternative _ _ _ hm => exact hm.key hU

theorem Needs.key (hU : U.Coherent K) {j k : τ} (h : U.Needs o j (.type k)) : K k := by
  rcases h with hh | ⟨m, _, hm⟩
  · exact hh.key hU
  · exact hm.key hU

theorem Reach.key (hU : U.Coherent K) {stop : τ → Prop} {seeds : Item τ → Prop} {k : τ}
    (h : U.Reach o stop seeds (.type k)) (hseeds : ∀ j, seeds (.type j) → K j) : K k := by
  cases h with
  | seed hs => exact hseeds k hs
  | step _ _ hn => exact hn.key hU

theorem Alike.survivors {x y : τ} (h : U.Alike x y) : U.survivors o x = U.survivors o y := by
  unfold Universe.survivors
  rw [h.interfaces, h.emittedBase]

theorem Alike.headerNeeds {x y : τ} (h : U.Alike x y) {i : Item τ} (hx : U.HeaderNeeds o x i) :
    U.HeaderNeeds o y i := by
  cases hx with
  | base hb hm => exact .base (h.emittedBase ▸ hb) hm
  | interface hs ht hm => exact .interface (h.survivors ▸ hs) ht hm
  | bound hd hp hb hm => exact .bound (h.isDefinition ▸ hd) (h.arguments ▸ hp) hb hm
  | alternative hd hp ha hm => exact .alternative (h.isDefinition ▸ hd) (h.arguments ▸ hp) ha hm

/-- Declarations of types that are alike need the same. -/
theorem Alike.needs {x y : τ} (h : U.Alike x y) {i : Item τ} (hx : U.Needs o x i) :
    U.Needs o y i := by
  rcases hx with hh | ⟨m, hm, hi⟩
  · exact .inl (h.headerNeeds hh)
  · exact .inr ⟨m, h.members ▸ hm, hi⟩

end Keys

end Universe

end TypeProjection
