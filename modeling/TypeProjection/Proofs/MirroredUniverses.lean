import Mathlib.Data.List.Forall2
import Mathlib.Data.Option.Basic
import TypeProjection.Generation

/-!
# Universes that answer alike

Two universes mirror each other along a relation between their types if they give the same answers
about related types: the same names and kinds, and related types where an answer is made of types.
If related types are told apart alike, a run over related roots declares the same in both. Under one
switch it writes the same text and reports the same events. If one of the runs declares every class
as an interface and the other does not, the two headers of a declaration still come from one draft:
nothing that is asked on the way depends on the switch. The second universe may hold more types than
the first, so its bounds may be greater; then a run that ends in the first one ends in the second.
-/

namespace TypeProjection

variable {τ τ' α α' β β' : Type}

/-! Relations between what universes and runs are made of. -/

/-- Two universes give the same answers about two types, up to a relation. -/
structure Universe.Mirrors (R : τ → τ' → Prop) (U : Universe τ) (U' : Universe τ') (t : τ)
    (t' : τ') : Prop where
  displayName : U'.displayName t' = U.displayName t
  name : U'.name t' = U.name t
  isEnum : U'.isEnum t' = U.isEnum t
  isInterface : U'.isInterface t' = U.isInterface t
  isAbstract : U'.isAbstract t' = U.isAbstract t
  isStructural : U'.isStructural t' = U.isStructural t
  isParameter : U'.isParameter t' = U.isParameter t
  isDefinition : U'.isDefinition t' = U.isDefinition t
  isConstructed : U'.isConstructed t' = U.isConstructed t
  needsConstructor : U'.needsConstructor t' = U.needsConstructor t
  primitive : U'.primitive t' = U.primitive t
  definition : R (U.definition t) (U'.definition t')
  arguments : List.Forall₂ R (U.arguments t) (U'.arguments t')
  bounds : List.Forall₂ R (U.bounds t) (U'.bounds t')
  alternatives : List.Forall₂ R (U.alternatives t) (U'.alternatives t')
  base : Option.Rel R (U.base t) (U'.base t')
  interfaces : List.Forall₂ R (U.interfaces t) (U'.interfaces t')
  members : List.Forall₂ (fun m m' => m'.1 = m.1 ∧ R m.2 m'.2) (U.members t) (U'.members t')
  enumMembers : U'.enumMembers t' = U.enumMembers t
  element : Option.Rel R (U.element t) (U'.element t')
  keyValue : Option.Rel (fun p p' => R p.1 p'.1 ∧ R p.2 p'.2) (U.keyValue t) (U'.keyValue t')
  tuple : Option.Rel (List.Forall₂ R) (U.tuple t) (U'.tuple t')
  union : List.Forall₂ R (U.union t) (U'.union t')
  memberNotes : U'.memberNotes t' = U.memberNotes t
  boundNotes : U'.boundNotes t' = U.boundNotes t
  alternativeNotes : U'.alternativeNotes t' = U.alternativeNotes t

/-- Two sets of options ask for the same, but for the switch that declares every class as an
interface. -/
structure Options.Mirrors (R : τ → τ' → Prop) (i i' : Bool) (o : Options τ) (o' : Options τ') :
    Prop where
  skip : o'.skip = o.skip
  interfacesOnly : o.interfacesOnly = i
  interfacesOnly' : o'.interfacesOnly = i'
  dates : o'.dates = o.dates
  defaultBase : Option.Rel (fun f f' => ∀ t t', R t t' → f' t' = f t) o.defaultBase o'.defaultBase
  rename : o'.rename = o.rename
  overrides : o'.overrides = o.overrides
  template : o'.template = o.template

/-- The parameters that a type declares. -/
def Universe.parameters (U : Universe τ) (k : τ) : List τ :=
  if U.isDefinition k then U.arguments k else []

/-- The references that constrain a parameter: those to its bounds, and the union of those to its
alternatives. -/
def constraintReferences (bounds alternatives : List String) : List String :=
  bounds ++ (if alternatives.isEmpty then [] else [Walk.unionText alternatives])

/-- A type parameter before it is known whether its type is declared as an interface. -/
structure ParameterDraft where
  name : String
  /-- The references that constrain it. -/
  constraint : List String
  needsConstructor : Bool

/-- The parameter as it is declared. An interface does not ask for a constructor. -/
def ParameterDraft.text (p : ParameterDraft) (asInterface : Bool) : String :=
  let parts := p.constraint ++
    (if p.needsConstructor && !asInterface then [Walk.constructorPart p.name] else [])
  if parts.isEmpty then p.name else p.name ++ " extends " ++ Walk.constraintText parts

/-- A draft has the name of its parameter and asks for a constructor if the parameter does. At most
one reference comes from each bound, and one from each alternative. -/
structure ParameterDraft.Of (U : Universe τ) (rename : String → String) (a : τ)
    (p : ParameterDraft) : Prop where
  name : p.name = rename (U.name a)
  needsConstructor : p.needsConstructor = U.needsConstructor a
  constraint : ∃ bounds alternatives : List String, bounds.length ≤ (U.bounds a).length ∧
    alternatives.length = (U.alternatives a).length ∧
    p.constraint = constraintReferences bounds alternatives

/-- Drafts of the parameters that a type declares, in their order. -/
def Universe.Drafts (U : Universe τ) (rename : String → String) (k : τ)
    (ps : List ParameterDraft) : Prop :=
  List.Forall₂ (ParameterDraft.Of U rename) (U.parameters k) ps

/-- A header before it is known whether every class is declared as an interface. -/
structure HeaderDraft where
  isInterface : Bool
  isAbstract : Bool
  /-- The reference to the base, if there is one. -/
  base : List String
  interfaces : List String
  parameters : List ParameterDraft

/-- The kind of an interface, or of a class. -/
def DeclarationKind.ofInterface (asInterface : Bool) : DeclarationKind :=
  if asInterface then .interfaceKind else .classKind

/-- The declaration with a header, when every class is declared as an interface, or not. -/
def HeaderDraft.declare (h : HeaderDraft) (interfacesOnly : Bool) (source : τ) (name : String)
    (members : List MemberDeclaration) : TypeDeclaration τ :=
  let asInterface := h.isInterface || interfacesOnly
  { source, name, members
    kind := .ofInterface asInterface
    isAbstract := h.isAbstract && !asInterface
    typeParameters := h.parameters.map fun p => p.text asInterface
    bases := if asInterface then h.base ++ h.interfaces else h.base
    implements := if asInterface then [] else h.interfaces }

/-- Two declarations of related types say the same, each under its switch, with parameters that are
drafted as they should be. -/
structure TypeDeclaration.Mirrors (R : τ → τ' → Prop) (D : τ → List ParameterDraft → Prop)
    (i i' : Bool) (d : TypeDeclaration τ) (d' : TypeDeclaration τ') : Prop where
  source : R d.source d'.source
  name : d'.name = d.name
  members : d'.members = d.members
  header : ∃ h : HeaderDraft, D d.source h.parameters ∧ d = h.declare i d.source d.name d.members ∧
    d' = h.declare i' d'.source d'.name d'.members

/-- A declaration that is in progress has no parameters yet. -/
def Undrafted (_ : τ) (ps : List ParameterDraft) : Prop := ps = []

/-- Two events report the same, each under its switch. -/
def Event.Mirrors (i i' : Bool) (e e' : Event) : Prop :=
  e' = e ∨ ∃ isInterface name, e = .declaredType (.ofInterface (isInterface || i)) name ∧
    e' = .declaredType (.ofInterface (isInterface || i')) name

/-- Two declarations of related enumerations say the same. -/
structure EnumDeclaration.Mirrors (R : τ → τ' → Prop) (d : EnumDeclaration τ)
    (d' : EnumDeclaration τ') : Prop where
  source : R d.source d'.source
  name : d'.name = d.name
  fields : d'.fields = d.fields

/-- Two registries hold the same declarations in the same order. -/
structure Registry.Mirrors (R : τ → τ' → Prop) (U : Universe τ) (rename : String → String)
    (i i' : Bool) (r : Registry τ) (r' : Registry τ') : Prop where
  options : r.options.Mirrors R i i' r'.options
  renames : r.options.rename = rename
  types : List.Forall₂ (TypeDeclaration.Mirrors R (U.Drafts rename) i i') r.types r'.types
  enums : List.Forall₂ (EnumDeclaration.Mirrors R) r.enums r'.enums
  inProgress : List.Forall₂ (TypeDeclaration.Mirrors R Undrafted i i') r.inProgress r'.inProgress
  events : List.Forall₂ (Event.Mirrors i i') r.events r'.events

/-- Related types are told apart alike. -/
def SameKeys [BEq τ] [BEq τ'] (R : τ → τ' → Prop) : Prop :=
  ∀ {t u : τ} {t' u' : τ'}, R t t' → R u u' → (t' == u') = (t == u)

/-- Wherever the supertypes of a type are found in the first universe, related ones are found in the
second. -/
def Universe.SharesSupertypes [BEq τ] [BEq τ'] (R : τ → τ' → Prop) (U : Universe τ)
    (U' : Universe τ') : Prop :=
  ∀ t t' ts, R t t' → U.supertypes t = some ts →
    ∃ ts', U'.supertypes t' = some ts' ∧ List.Forall₂ R ts ts'

/-! Lists. -/

section Lists

variable {S : α → α' → Prop} {xs : List α} {ys : List α'} {p : α → Bool} {q : α' → Bool}

theorem isEmpty_of_forall₂ (h : List.Forall₂ S xs ys) : ys.isEmpty = xs.isEmpty := by
  cases h <;> rfl

theorem find?_of_forall₂ (h : List.Forall₂ S xs ys) (hp : ∀ x y, S x y → q y = p x) :
    Option.Rel S (xs.find? p) (ys.find? q) := by
  induction h with
  | nil => exact .none
  | @cons x y xs ys hxy _ ih =>
    rw [List.find?_cons, List.find?_cons, hp x y hxy]
    cases p x with
    | true => exact .some hxy
    | false => exact ih

theorem filter_of_forall₂ (h : List.Forall₂ S xs ys) (hp : ∀ x y, S x y → q y = p x) :
    List.Forall₂ S (xs.filter p) (ys.filter q) := by
  induction h with
  | nil => exact .nil
  | @cons x y xs ys hxy _ ih =>
    rw [List.filter_cons, List.filter_cons, hp x y hxy]
    split
    · exact .cons hxy ih
    · exact ih

theorem map_eq_of_forall₂ {f : α → β} {g : α' → β} (h : List.Forall₂ S xs ys)
    (hf : ∀ x y, S x y → g y = f x) : ys.map g = xs.map f := by
  induction h with
  | nil => rfl
  | cons hxy _ ih => rw [List.map_cons, List.map_cons, hf _ _ hxy, ih]

theorem map_of_forall₂ {P : β → β' → Prop} {f : α → β} {g : α' → β'} (h : List.Forall₂ S xs ys)
    (hf : ∀ x y, S x y → P (f x) (g y)) : List.Forall₂ P (xs.map f) (ys.map g) :=
  List.forall₂_map_left_iff.mpr (List.forall₂_map_right_iff.mpr (h.imp hf))

theorem append_of_forall₂ {us : List α} {vs : List α'} (h : List.Forall₂ S xs ys)
    (h' : List.Forall₂ S us vs) : List.Forall₂ S (xs ++ us) (ys ++ vs) := by
  induction h with
  | nil => exact h'
  | cons hxy _ ih => exact .cons hxy ih

theorem toList_of_rel {x : Option α} {y : Option α'} (h : Option.Rel S x y) :
    List.Forall₂ S x.toList y.toList := by
  cases h with
  | none => exact .nil
  | some h => exact .cons h .nil

theorem contains_of_forall₂ [BEq τ] [BEq τ'] {R : τ → τ' → Prop} (hR : SameKeys R) {ts : List τ}
    {ts' : List τ'} (h : List.Forall₂ R ts ts') {t : τ} {t' : τ'} (ht : R t t') :
    ts'.contains t' = ts.contains t := by
  induction h with
  | nil => rfl
  | cons hxy _ ih => rw [List.contains_cons, List.contains_cons, hR ht hxy, ih]

theorem distinct_of_forall₂ [BEq τ] [BEq τ'] {R : τ → τ' → Prop} (hR : SameKeys R) {ts : List τ}
    {ts' : List τ'} (h : List.Forall₂ R ts ts') : List.Forall₂ R (distinct ts) (distinct ts') := by
  induction h with
  | nil => exact .nil
  | cons hxy _ ih =>
    exact .cons hxy (filter_of_forall₂ ih fun x y hxy' => by rw [hR hxy hxy'])

end Lists

section Runs

variable [BEq τ] [BEq τ'] {R : τ → τ' → Prop} {U : Universe τ} {U' : Universe τ'} {t : τ}
  {t' : τ'} {rename : String → String} {i i' : Bool}

/-! Supertypes. -/

section Supertypes

variable (hR : SameKeys R) (hU : ∀ t t', R t t' → U.Mirrors R U' t t')

include hU in
omit [BEq τ] [BEq τ'] in
theorem directDefinitions_mirrored (ht : R t t') :
    List.Forall₂ R (U.directDefinitions t) (U'.directDefinitions t') := by
  have hdirect : List.Forall₂ R (U.directSupertypes t) (U'.directSupertypes t') :=
    append_of_forall₂ (toList_of_rel (hU _ _ ht).base) (hU _ _ ht).interfaces
  exact map_of_forall₂ hdirect fun _ _ h => (hU _ _ h).definition

include hR hU

theorem supertypesFrom_mirrored {n n' : Nat} (hn : n ≤ n') {found pending ts : List τ}
    {found' pending' : List τ'} (hfound : List.Forall₂ R found found')
    (hpending : List.Forall₂ R pending pending')
    (h : U.supertypesFrom n found pending = some ts) :
    ∃ ts', U'.supertypesFrom n' found' pending' = some ts' ∧ List.Forall₂ R ts ts' := by
  induction n generalizing n' found found' pending pending' with
  | zero =>
    cases hpending with
    | nil =>
      rw [Universe.supertypesFrom] at h
      cases h
      exact ⟨found', by rw [Universe.supertypesFrom], hfound⟩
    | cons => cases h
  | succ n ih =>
    obtain ⟨n', rfl⟩ : ∃ m, n' = m + 1 := ⟨n' - 1, by omega⟩
    cases hpending with
    | nil =>
      rw [Universe.supertypesFrom] at h
      cases h
      exact ⟨found', by rw [Universe.supertypesFrom], hfound⟩
    | cons hxy hrest =>
      rw [Universe.supertypesFrom] at h ⊢
      have hfresh := distinct_of_forall₂ hR (filter_of_forall₂ (directDefinitions_mirrored hU hxy)
        (p := fun s => !found.contains s) (q := fun s => !found'.contains s)
        fun x y hxy => by rw [contains_of_forall₂ hR hfound hxy])
      exact ih (Nat.le_of_succ_le_succ hn) (append_of_forall₂ hfound hfresh)
        (append_of_forall₂ (List.rel_reverse hfresh) hrest) h

theorem supertypes_mirrored (hextent : U.extent ≤ U'.extent) : U.SharesSupertypes R U' :=
  fun _ _ _ ht h => supertypesFrom_mirrored hR hU (Nat.succ_le_succ hextent) .nil
    (.cons (hU _ _ ht).definition .nil) h

end Supertypes

/-! Registries. -/

namespace Registry.Mirrors

variable {r : Registry τ} {r' : Registry τ'} (hr : r.Mirrors R U rename i i' r')

include hr

omit [BEq τ] [BEq τ'] in
theorem report {e e' : Event} (he : e.Mirrors i i' e') :
    (r.report e).Mirrors R U rename i i' (r'.report e') :=
  { hr with events := append_of_forall₂ hr.events (.cons he .nil) }

variable (hR : SameKeys R)

include hR

/-- A declaration is found in both registries or in neither, and under one name. -/
theorem findType (ht : R t t') :
    Option.Rel (fun d d' => d'.name = d.name) (r.findType t) (r'.findType t') := by
  have hlookup : ∀ {D ds ds'}, List.Forall₂ (TypeDeclaration.Mirrors R D i i') ds ds' →
      Option.Rel (fun d d' => d'.name = d.name) (Registry.lookupType t ds)
        (Registry.lookupType t' ds') := by
    intro D ds ds' h
    have hfind := find?_of_forall₂ h (p := fun d => d.source == t) (q := fun d => d.source == t')
      fun _ _ hd => hR hd.source ht
    unfold Registry.lookupType
    generalize ds.find? _ = x at hfind
    generalize ds'.find? _ = y at hfind
    cases hfind with
    | none => exact .none
    | some hd => exact .some hd.name
  have htypes := hlookup hr.types
  unfold Registry.findType
  generalize Registry.lookupType t r.types = x at htypes
  generalize Registry.lookupType t' r'.types = y at htypes
  cases htypes with
  | some h => exact .some h
  | none => exact hlookup hr.inProgress

theorem findEnum (ht : R t t') :
    Option.Rel (EnumDeclaration.Mirrors R) (r.findEnum t) (r'.findEnum t') :=
  find?_of_forall₂ hr.enums fun _ _ hd => hR hd.source ht

omit hr in
theorem putType {D : τ → List ParameterDraft → Prop} {d : TypeDeclaration τ}
    {d' : TypeDeclaration τ'} (hd : d.Mirrors R D i i' d')
    {ds : List (TypeDeclaration τ)} {ds' : List (TypeDeclaration τ')}
    (h : List.Forall₂ (TypeDeclaration.Mirrors R D i i') ds ds') :
    List.Forall₂ (TypeDeclaration.Mirrors R D i i') (Registry.putType d ds)
      (Registry.putType d' ds') := by
  induction h with
  | nil => exact .cons hd .nil
  | cons he hrest ih =>
    rw [Registry.putType, Registry.putType, hR he.source hd.source]
    split
    · exact .cons hd hrest
    · exact .cons he ih

omit hr in
theorem putEnum {d : EnumDeclaration τ} {d' : EnumDeclaration τ'} (hd : d.Mirrors R d')
    {ds : List (EnumDeclaration τ)} {ds' : List (EnumDeclaration τ')}
    (h : List.Forall₂ (EnumDeclaration.Mirrors R) ds ds') :
    List.Forall₂ (EnumDeclaration.Mirrors R) (Registry.putEnum d ds) (Registry.putEnum d' ds') := by
  induction h with
  | nil => exact .cons hd .nil
  | cons he hrest ih =>
    rw [Registry.putEnum, Registry.putEnum, hR he.source hd.source]
    split
    · exact .cons hd hrest
    · exact .cons he ih

theorem claimType {d : TypeDeclaration τ} {d' : TypeDeclaration τ'}
    (hd : d.Mirrors R Undrafted i i' d') :
    (r.claimType d).Mirrors R U rename i i' (r'.claimType d') :=
  { hr with inProgress := putType hR hd hr.inProgress }

theorem registerType {d : TypeDeclaration τ} {d' : TypeDeclaration τ'}
    (hd : d.Mirrors R (U.Drafts rename) i i' d') :
    (r.registerType d).Mirrors R U rename i i' (r'.registerType d') :=
  { hr with
    types := putType hR hd hr.types
    inProgress := filter_of_forall₂ hr.inProgress fun _ _ he => by rw [hR he.source hd.source] }

theorem registerEnum {d : EnumDeclaration τ} {d' : EnumDeclaration τ'} (hd : d.Mirrors R d') :
    (r.registerEnum d).Mirrors R U rename i i' (r'.registerEnum d') :=
  { hr with enums := putEnum hR hd hr.enums }

theorem setMembers (ht : R t t') (members : List MemberDeclaration) :
    (r.setMembers t members).Mirrors R U rename i i' (r'.setMembers t' members) := by
  refine { hr with types := map_of_forall₂ hr.types fun d d' hd => ?_ }
  rw [hR hd.source ht]
  split
  · obtain ⟨h, hparameters, hdraft, hdraft'⟩ := hd.header
    exact ⟨hd.source, hd.name, rfl, h, hparameters,
      congrArg (fun d => { d with members := members }) hdraft,
      congrArg (fun d => { d with members := members }) hdraft'⟩
  · exact hd

end Registry.Mirrors

/-! Walks. -/

namespace Walk

/-- Where the first walk ends, the second one ends likewise: results and registries correspond. -/
def Follows (R : τ → τ' → Prop) (U : Universe τ) (rename : String → String) (i i' : Bool)
    (Q : α → α' → Prop) (m : Walk τ α) (m' : Walk τ' α') : Prop :=
  ∀ r r', r.Mirrors R U rename i i' r' → ∀ a s, m r = some (a, s) →
    ∃ a' s', m' r' = some (a', s') ∧ Q a a' ∧ s.Mirrors R U rename i i' s'

section Rules

omit [BEq τ] [BEq τ']

variable {Q : α → α' → Prop} {P : β → β' → Prop} {m : Walk τ α} {m' : Walk τ' α'}

theorem follows_pure {a : α} {a' : α'} (h : Q a a') :
    Follows R U rename i i' Q (pure a : Walk τ α) (pure a') := by
  intro r r' hr b s hs
  cases hs
  exact ⟨a', r', rfl, h, hr⟩

theorem Follows.bind {f : α → Walk τ β} {f' : α' → Walk τ' β'} (h : Follows R U rename i i' Q m m')
    (hf : ∀ a a', Q a a' → Follows R U rename i i' P (f a) (f' a')) :
    Follows R U rename i i' P (m >>= f) (m' >>= f') := by
  intro r r' hr b s hs
  obtain ⟨⟨a, r₁⟩, ha, hs⟩ := Option.bind_eq_some_iff.mp hs
  obtain ⟨a', r₁', ha', hQ, hr₁⟩ := h _ _ hr _ _ ha
  obtain ⟨b', s', hb', hP, hs'⟩ := hf _ _ hQ _ _ hr₁ _ _ hs
  exact ⟨b', s', Option.bind_eq_some_iff.mpr ⟨(a', r₁'), ha', hb'⟩, hP, hs'⟩

theorem Follows.mono {Q' : α → α' → Prop} (h : Follows R U rename i i' Q m m')
    (hQ : ∀ a a', Q a a' → Q' a a') : Follows R U rename i i' Q' m m' := by
  intro r r' hr a s hs
  obtain ⟨a', s', hs', ha, hmirrors⟩ := h _ _ hr _ _ hs
  exact ⟨a', s', hs', hQ _ _ ha, hmirrors⟩

theorem follows_get :
    Follows R U rename i i' (Registry.Mirrors R U rename i i') (get : Walk τ (Registry τ)) get := by
  intro r r' hr a s hs
  cases hs
  exact ⟨r', r', rfl, hr, hr⟩

theorem follows_modify {f : Registry τ → Registry τ} {f' : Registry τ' → Registry τ'}
    (h : ∀ r r', r.Mirrors R U rename i i' r' → (f r).Mirrors R U rename i i' (f' r')) :
    Follows R U rename i i' (fun _ _ => True) (modify f : Walk τ Unit) (modify f') := by
  intro r r' hr a s hs
  cases hs
  exact ⟨(), f' r', rfl, trivial, h _ _ hr⟩

theorem follows_lift {x : Option α} {x' : Option α'}
    (h : ∀ a, x = some a → ∃ a', x' = some a' ∧ Q a a') :
    Follows R U rename i i' Q (StateT.lift x : Walk τ α) (StateT.lift x') := by
  intro r r' hr a s hs
  cases x with
  | none => cases hs
  | some y =>
    cases hs
    obtain ⟨a', rfl, hQ⟩ := h _ rfl
    exact ⟨a', r', rfl, hQ, hr⟩

theorem follows_ite {c : Prop} [Decidable c] {n : Walk τ α} {n' : Walk τ' α'}
    (h : c → Follows R U rename i i' Q m m') (h' : ¬ c → Follows R U rename i i' Q n n') :
    Follows R U rename i i' Q (if c then m else n) (if c then m' else n') := by
  split
  · exact h ‹_›
  · exact h' ‹_›

theorem follows_mapM {S : α → α' → Prop} {f : α → Walk τ β} {f' : α' → Walk τ' β'}
    (hf : ∀ x y, S x y → Follows R U rename i i' P (f x) (f' y)) {xs : List α} {ys : List α'}
    (h : List.Forall₂ S xs ys) :
    Follows R U rename i i' (fun bs bs' => List.Forall₂ P bs bs' ∧ bs.length = xs.length)
      (xs.mapM f) (ys.mapM f') := by
  induction h with
  | nil => exact follows_pure ⟨.nil, rfl⟩
  | cons hxy _ ih =>
    rw [List.mapM_cons, List.mapM_cons]
    refine (hf _ _ hxy).bind fun _ _ hb => ih.bind fun _ _ hbs => follows_pure ?_
    exact ⟨.cons hb hbs.1, congrArg (· + 1) hbs.2⟩

theorem follows_forM {S : α → α' → Prop} {f : α → Walk τ Unit} {f' : α' → Walk τ' Unit}
    (hf : ∀ x y, S x y → Follows R U rename i i' (fun _ _ => True) (f x) (f' y))
    {xs : List α} {ys : List α'}
    (h : List.Forall₂ S xs ys) :
    Follows R U rename i i' (fun _ _ => True) (xs.forM f) (ys.forM f') := by
  induction h with
  | nil => exact follows_pure trivial
  | cons hxy _ ih => exact (hf _ _ hxy).bind fun _ _ _ => ih

/-- Items that give the same are listed alike. -/
theorem follows_mapM_eq {f : α → Walk τ β} {f' : α' → Walk τ' β} {S : α → α' → Prop}
    (hf : ∀ x y, S x y → Follows R U rename i i' Eq (f x) (f' y)) {xs : List α} {ys : List α'}
    (h : List.Forall₂ S xs ys) :
    Follows R U rename i i' (fun bs bs' => bs = bs' ∧ bs.length = xs.length) (xs.mapM f)
      (ys.mapM f') := by
  intro r r' hr a s hs
  obtain ⟨a', s', hs', ⟨ha, hlength⟩, hmirrors⟩ := follows_mapM hf h _ _ hr _ _ hs
  exact ⟨a', s', hs', ⟨List.forall₂_eq_eq_eq ▸ ha, hlength⟩, hmirrors⟩

theorem follows_report (e : Event) : Follows R U rename i i' (fun _ _ => True) (report e : Walk τ Unit)
    (report e) :=
  follows_modify fun _ _ hr => hr.report (.inl rfl)

theorem follows_reportNotes (notes : List String) :
    Follows R U rename i i' (fun _ _ => True) (reportNotes notes : Walk τ Unit) (reportNotes notes) :=
  follows_forM (S := Eq) (fun _ _ h => h ▸ follows_report _) (List.forall₂_refl notes)

theorem follows_isSkipped (h : U.Mirrors R U' t t') :
    Follows R U rename i i' Eq (isSkipped U t) (isSkipped U' t') :=
  follows_get.bind fun _ _ hr => follows_pure (by
    rw [Options.skips, Options.skips, hr.options.skip, h.displayName])

theorem follows_renamed (name : String) :
    Follows R U rename i i' (fun a b => a = rename name ∧ b = rename name)
      (renamed name : Walk τ String) (renamed name) :=
  follows_get.bind fun _ _ hr => follows_pure
    ⟨by rw [hr.renames], by rw [hr.options.rename, hr.renames]⟩

end Rules

end Walk

/-- What the first calls answer, the second ones answer about related types. -/
structure Calls.Follows (R : τ → τ' → Prop) (U : Universe τ) (rename : String → String)
    (i i' : Bool) (c : Calls τ) (c' : Calls τ') : Prop where
  resolve : ∀ t t', R t t' → Walk.Follows R U rename i i' Eq (c.resolve t) (c'.resolve t')
  build : ∀ t t', R t t' →
    Walk.Follows R U rename i i' (Option.Rel fun d d' => d'.name = d.name) (c.build t) (c'.build t')

namespace Walk

variable (hR : SameKeys R) (hU : ∀ t t', R t t' → U.Mirrors R U' t t')

section Steps

variable {c : Calls τ} {c' : Calls τ'} (hc : c.Follows R U rename i i' c')

include hR in
theorem follows_buildEnum (h : U.Mirrors R U' t t') (ht : R t t') :
    Follows R U rename i i' (Option.Rel (EnumDeclaration.Mirrors R)) (buildEnum U t)
    (buildEnum U' t') := by
  unfold buildEnum
  refine (follows_isSkipped h).bind fun _ _ hskip => ?_
  subst hskip
  refine follows_ite (fun _ => ?_) fun _ => ?_
  · rw [h.displayName]
    exact (follows_report _).bind fun _ _ _ => follows_pure .none
  · refine follows_get.bind fun r r' hr => ?_
    have hfind := hr.findEnum hR ht
    generalize r.findEnum t = x at hfind
    generalize r'.findEnum t' = y at hfind
    cases hfind with
    | some hd => exact follows_pure (.some hd)
    | none =>
      dsimp only
      rw [h.name, h.enumMembers]
      refine (follows_renamed _).bind fun name _ hname => ?_
      obtain ⟨rfl, rfl⟩ := hname
      have hd : EnumDeclaration.Mirrors R ⟨t, rename (U.name t), enumFields (U.enumMembers t)⟩
        ⟨t', rename (U.name t), enumFields (U.enumMembers t)⟩ := ⟨ht, rfl, rfl⟩
      refine (follows_modify fun _ _ hr => hr.registerEnum hR hd).bind fun _ _ _ => ?_
      exact (follows_report _).bind fun _ _ _ => follows_pure (.some hd)

include hU hc

omit [BEq τ] [BEq τ'] in
theorem follows_structureReference (ht : R t t') :
    Follows R U rename i i' Eq (structureReference U c t) (structureReference U' c' t') := by
  have h := hU _ _ ht
  unfold structureReference
  refine (hc.build _ _ ht).bind fun x y hd => ?_
  cases hd with
  | none => exact follows_pure rfl
  | some hd =>
    dsimp only
    rw [h.isConstructed, h.isDefinition, hd]
    refine follows_ite (fun _ => ?_) fun _ => follows_ite (fun _ => ?_) fun _ => follows_pure rfl
    · exact (follows_mapM_eq hc.resolve h.arguments).bind fun _ _ he => follows_pure (he.1 ▸ rfl)
    · rw [map_eq_of_forall₂ h.arguments (f := fun _ => fallbackReference) fun _ _ _ => rfl]
      exact follows_pure rfl

include hR in
theorem follows_resolveStep (ht : R t t') :
    Follows R U rename i i' Eq (resolveStep U c t) (resolveStep U' c' t') := by
  have h := hU _ _ ht
  have helement := h.element
  have hkeyValue := h.keyValue
  have htuple := h.tuple
  unfold resolveStep
  rw [h.isParameter, h.name, h.isEnum, h.displayName, h.primitive, isEmpty_of_forall₂ h.union,
    h.isStructural]
  refine follows_ite (fun _ => ?_) fun _ => follows_ite (fun _ => ?_) fun _ => ?_
  · exact (follows_renamed _).mono fun _ _ h => h.1.trans h.2.symm
  · refine (follows_buildEnum hR h ht).bind fun x y hd => ?_
    cases hd with
    | some hd => exact follows_pure hd.name.symm
    | none => exact follows_pure rfl
  refine follows_get.bind fun _ _ hr => ?_
  dsimp only
  rw [hr.options.overrides, hr.options.dates]
  split
  · exact follows_pure rfl
  split
  · exact follows_pure rfl
  refine follows_ite (fun _ => ?_) fun _ => ?_
  · exact (follows_mapM_eq hc.resolve h.union).bind fun _ _ he => follows_pure (he.1 ▸ rfl)
  generalize U.element t = x at helement
  generalize U'.element t' = y at helement
  cases helement with
  | some he => exact (hc.resolve _ _ he).bind fun _ _ he => follows_pure (he ▸ rfl)
  | none =>
    dsimp only
    generalize U.keyValue t = x at hkeyValue
    generalize U'.keyValue t' = y at hkeyValue
    cases hkeyValue with
    | some hkv =>
      refine (hc.resolve _ _ hkv.1).bind fun _ _ hk => (hc.resolve _ _ hkv.2).bind fun _ _ hv => ?_
      exact follows_pure (by rw [hk, hv])
    | none =>
      dsimp only
      generalize U.tuple t = x at htuple
      generalize U'.tuple t' = y at htuple
      cases htuple with
      | some hts =>
        exact (follows_mapM_eq hc.resolve hts).bind fun _ _ he => follows_pure (he.1 ▸ rfl)
      | none =>
        exact follows_ite (fun _ => follows_structureReference hU hc ht) fun _ => follows_pure rfl

omit [BEq τ] [BEq τ'] in
theorem follows_baseReference (ht : R t t') :
    Follows R U rename i i' (fun x y => y.1 = x.1 ∧ Option.Rel R x.2 y.2) (baseReference U c t)
      (baseReference U' c' t') := by
  have h := hU _ _ ht
  have hbase := h.base
  unfold baseReference
  rw [h.isInterface]
  extract_lets fromDefault fromDefault'
  have hdefault : Follows R U rename i i' (fun x y => y.1 = x.1 ∧ Option.Rel R x.2 y.2) fromDefault
      fromDefault' := by
    refine follows_get.bind fun r r' hr => ?_
    have hchoice := hr.options.defaultBase
    generalize r.options.defaultBase = x at hchoice
    generalize r'.options.defaultBase = y at hchoice
    cases hchoice with
    | none => exact follows_pure ⟨rfl, .none⟩
    | some hf =>
      refine follows_ite (fun _ => follows_pure ⟨rfl, .none⟩) fun _ => ?_
      exact follows_pure ⟨by rw [hf t t' ht], .none⟩
  generalize U.base t = x at hbase
  generalize U'.base t' = y at hbase
  cases hbase with
  | none => exact hdefault
  | some hb =>
    dsimp only
    rw [(hU _ _ hb).isStructural]
    refine follows_ite (fun _ => ?_) fun _ => hdefault
    refine (hc.build _ _ hb).bind fun x y hd => ?_
    cases hd with
    | none => exact hdefault
    | some hd => exact (hc.resolve _ _ hb).bind fun _ _ he => follows_pure ⟨he ▸ rfl, .some hb⟩

omit [BEq τ] [BEq τ'] in
theorem follows_boundReferences {bs : List τ} {bs' : List τ'} (h : List.Forall₂ R bs bs') :
    Follows R U rename i i' (fun xs ys => xs = ys ∧ xs.length ≤ bs.length) (boundReferences U c bs)
      (boundReferences U' c' bs') := by
  induction h with
  | nil => exact follows_pure ⟨rfl, Nat.le_refl 0⟩
  | @cons b b' bs bs' hb _ ih =>
    unfold boundReferences
    rw [(hU _ _ hb).isStructural]
    extract_lets keep keep'
    have hkeep : ∀ kept, Follows R U rename i i'
        (fun xs ys => xs = ys ∧ xs.length ≤ (b :: bs).length) (keep kept) (keep' kept) := by
      intro kept
      refine follows_ite (fun _ => ?_) fun _ => ih.mono fun _ _ h => ⟨h.1, Nat.le_succ_of_le h.2⟩
      refine (hc.resolve _ _ hb).bind fun s _ he => ih.bind fun ss _ hs => follows_pure ?_
      obtain ⟨rfl, hlength⟩ := hs
      subst he
      refine ⟨rfl, ?_⟩
      split
      · exact Nat.le_succ_of_le hlength
      · exact Nat.succ_le_succ hlength
    have hbuilt : Follows R U rename i i' Eq (do return (← c.build b).isSome)
        (do return (← c'.build b').isSome) := by
      refine (hc.build _ _ hb).bind fun x y hd => ?_
      cases hd <;> exact follows_pure rfl
    refine follows_ite (fun _ => ?_) fun _ => hkeep true
    exact hbuilt.bind fun kept _ he => he ▸ hkeep kept

omit [BEq τ] [BEq τ'] in
theorem follows_typeParameter (a a' : Bool) (ht : R t t') :
    Follows R U rename i i' (fun x y => ∃ p : ParameterDraft, p.Of U rename t ∧ x = p.text a ∧
        y = p.text a')
      (typeParameter U c a t) (typeParameter U' c' a' t') := by
  have h := hU _ _ ht
  unfold typeParameter
  rw [h.name, h.boundNotes, h.alternativeNotes, h.needsConstructor]
  refine (follows_renamed _).bind fun _ _ hname => ?_
  obtain ⟨rfl, rfl⟩ := hname
  refine (follows_reportNotes _).bind fun _ _ _ => ?_
  refine (follows_boundReferences hU hc h.bounds).bind fun bounds _ hbounds => ?_
  obtain ⟨rfl, hbounds⟩ := hbounds
  refine (follows_reportNotes _).bind fun _ _ _ => ?_
  refine (follows_mapM_eq hc.resolve h.alternatives).bind fun alternatives _ halternatives => ?_
  obtain ⟨rfl, halternatives⟩ := halternatives
  exact follows_pure ⟨⟨rename (U.name t), constraintReferences bounds alternatives,
    U.needsConstructor t⟩, ⟨rfl, rfl, bounds, alternatives, hbounds, halternatives, rfl⟩, rfl, rfl⟩

omit [BEq τ] [BEq τ'] in
theorem follows_parameters (a a' : Bool) {ts : List τ} {ts' : List τ'}
    (h : List.Forall₂ R ts ts') :
    Follows R U rename i i' (fun xs ys => ∃ ps : List ParameterDraft,
        List.Forall₂ (ParameterDraft.Of U rename) ts ps ∧ xs = ps.map (·.text a) ∧
        ys = ps.map (·.text a'))
      (ts.mapM (typeParameter U c a)) (ts'.mapM (typeParameter U' c' a')) := by
  induction h with
  | nil => exact follows_pure ⟨[], .nil, rfl, rfl⟩
  | cons ht _ ih =>
    rw [List.mapM_cons, List.mapM_cons]
    refine (follows_typeParameter hU hc a a' ht).bind fun _ _ hp => ih.bind fun _ _ hps => ?_
    obtain ⟨p, hp, rfl, rfl⟩ := hp
    obtain ⟨ps, hps, rfl, rfl⟩ := hps
    exact follows_pure ⟨p :: ps, .cons hp hps, rfl, rfl⟩

omit [BEq τ] [BEq τ'] in
theorem follows_typeParameters (a a' : Bool) (ht : R t t') :
    Follows R U rename i i' (fun xs ys => ∃ ps : List ParameterDraft, U.Drafts rename t ps ∧
        xs = ps.map (·.text a) ∧ ys = ps.map (·.text a'))
      (typeParameters U c a t) (typeParameters U' c' a' t') := by
  unfold typeParameters Universe.Drafts Universe.parameters
  rw [(hU _ _ ht).isDefinition]
  cases U.isDefinition t with
  | true => exact follows_parameters hU hc a a' (hU _ _ ht).arguments
  | false => exact follows_pure ⟨[], .nil, rfl, rfl⟩

omit [BEq τ] [BEq τ'] in
theorem follows_memberDeclarations (ht : R t t') :
    Follows R U rename i i' Eq (memberDeclarations U c t) (memberDeclarations U' c' t') := by
  unfold memberDeclarations
  rw [(hU _ _ ht).memberNotes]
  refine (follows_reportNotes _).bind fun _ _ _ => ?_
  have hone : ∀ (m : String × τ) (m' : String × τ'), (m'.1 = m.1 ∧ R m.2 m'.2) →
      Follows R U rename i i' Eq (do return (⟨m.1, ← c.resolve m.2⟩ : MemberDeclaration))
        (do return ⟨m'.1, ← c'.resolve m'.2⟩) :=
    fun m m' hm => (hc.resolve _ _ hm.2).bind fun _ _ he => follows_pure (by rw [hm.1, he])
  exact (follows_mapM_eq hone (hU _ _ ht).members).mono fun _ _ h => h.1

omit hc in
theorem follows_implied (habove : U.SharesSupertypes R U') {ts : List τ} {ts' : List τ'}
    (hts : List.Forall₂ R ts ts') {b : Option τ} {b' : Option τ'} (hb : Option.Rel R b b') :
    Follows R U rename i i' (List.Forall₂ R) (implied U ts b) (implied U' ts' b') := by
  have hlift : ∀ t t', R t t' → Follows R U rename i i' (List.Forall₂ R)
      (StateT.lift (U.supertypes t) : Walk τ (List τ)) (StateT.lift (U'.supertypes t')) :=
    fun _ _ ht => follows_lift fun _ h => habove _ _ _ ht h
  have hcandidates := follows_mapM hlift hts
  have hrest : ∀ {xs xs'}, List.Forall₂ R xs xs' → Follows R U rename i i' (List.Forall₂ R)
      (do
        let fromCandidates ← ts.mapM fun t => (StateT.lift (U.supertypes t) : Walk τ (List τ))
        return xs ++ fromCandidates.flatten)
      (do
        let fromCandidates ← ts'.mapM fun t => (StateT.lift (U'.supertypes t) : Walk τ' (List τ'))
        return xs' ++ fromCandidates.flatten) := by
    intro xs xs' hxs
    refine hcandidates.bind fun _ _ hys => follows_pure (append_of_forall₂ hxs ?_)
    exact List.rel_flatten hys.1
  unfold implied
  cases hb with
  | none => exact hrest .nil
  | some hb => exact (hlift _ _ hb).bind fun _ _ hts => hrest (.cons (hU _ _ hb).definition hts)

section Headers

include hR

theorem follows_interfaceReferencesFrom {implied listed ts : List τ} {implied' listed' ts' : List τ'}
    (himplied : List.Forall₂ R implied implied') (hlisted : List.Forall₂ R listed listed')
    (hts : List.Forall₂ R ts ts') :
    Follows R U rename i i' Eq (interfaceReferencesFrom U c implied listed ts)
      (interfaceReferencesFrom U' c' implied' listed' ts') := by
  induction hts generalizing listed listed' with
  | nil => exact follows_pure rfl
  | @cons t t' ts ts' ht _ ih =>
    have hd := (hU _ _ ht).definition
    have hmore := ih (.cons hd hlisted)
    unfold interfaceReferencesFrom
    dsimp only
    rw [contains_of_forall₂ hR himplied hd, contains_of_forall₂ hR hlisted hd, (hU _ _ ht).isStructural]
    refine follows_ite (fun _ => ih hlisted) fun _ => follows_ite (fun _ => hmore) fun _ => ?_
    refine (hc.build _ _ ht).bind fun x y hb => ?_
    cases hb with
    | none => exact hmore
    | some hb =>
      exact (hc.resolve _ _ ht).bind fun _ _ he => hmore.bind fun _ _ he' =>
        follows_pure (he ▸ he' ▸ rfl)

theorem follows_interfaceReferences (habove : U.SharesSupertypes R U') (ht : R t t') {b : Option τ}
    {b' : Option τ'} (hb : Option.Rel R b b') :
    Follows R U rename i i' Eq (interfaceReferences U c t b) (interfaceReferences U' c' t' b') :=
  (follows_implied hU habove (hU _ _ ht).interfaces hb).bind fun _ _ himplied =>
    follows_interfaceReferencesFrom hR hU hc himplied .nil (hU _ _ ht).interfaces

theorem follows_declareType (habove : U.SharesSupertypes R U') (ht : R t t') :
    Follows R U rename i i' (fun d d' => d'.name = d.name) (declareType U c t)
      (declareType U' c' t') := by
  have h := hU _ _ ht
  unfold declareType
  rw [h.isInterface, h.isAbstract, h.name]
  refine follows_get.bind fun _ _ hr => ?_
  rw [hr.options.interfacesOnly, hr.options.interfacesOnly']
  refine (follows_renamed _).bind fun _ _ hname => ?_
  obtain ⟨rfl, rfl⟩ := hname
  have hbegun : TypeDeclaration.Mirrors R Undrafted i i'
      { TypeDeclaration.bare t (rename (U.name t)) with
        kind := .ofInterface (U.isInterface t || i)
        isAbstract := U.isAbstract t && !(U.isInterface t || i) }
      { TypeDeclaration.bare t' (rename (U.name t)) with
        kind := .ofInterface (U.isInterface t || i')
        isAbstract := U.isAbstract t && !(U.isInterface t || i') } :=
    ⟨ht, rfl, rfl, ⟨U.isInterface t, U.isAbstract t, [], [], []⟩, rfl,
      by simp [HeaderDraft.declare, TypeDeclaration.bare],
      by simp [HeaderDraft.declare, TypeDeclaration.bare]⟩
  refine (follows_modify fun _ _ hr => hr.claimType hR hbegun).bind fun _ _ _ => ?_
  refine (follows_baseReference hU hc ht).bind fun x y hb => ?_
  obtain ⟨text, base⟩ := x
  obtain ⟨text', base'⟩ := y
  obtain ⟨hbtext : text' = text, hb⟩ := hb
  subst hbtext
  refine (follows_interfaceReferences hR hU hc habove ht hb).bind fun interfaces _ hi => ?_
  subst hi
  let placed : HeaderDraft :=
    ⟨U.isInterface t, U.isAbstract t, (text'.filter (· != "")).toList, interfaces, []⟩
  refine (follows_modify fun _ _ hr =>
    hr.claimType hR ⟨ht, rfl, rfl, placed, rfl, rfl, rfl⟩).bind fun _ _ _ => ?_
  refine (follows_typeParameters hU hc _ _ ht).bind fun _ _ hp => ?_
  obtain ⟨parameters, hdrafts, rfl, rfl⟩ := hp
  refine (follows_modify fun _ _ hr => hr.registerType hR
    ⟨ht, rfl, rfl, { placed with parameters := parameters }, hdrafts, rfl, rfl⟩).bind
    fun _ _ _ => ?_
  refine (follows_memberDeclarations hU hc ht).bind fun _ _ hm => ?_
  subst hm
  refine (follows_modify fun _ _ hr => hr.setMembers hR ht _).bind fun _ _ _ => ?_
  refine (follows_modify fun _ _ hr =>
    hr.report (.inr ⟨U.isInterface t, rename (U.name t), rfl, rfl⟩)).bind fun _ _ _ => ?_
  exact follows_pure rfl

theorem follows_buildStep (habove : U.SharesSupertypes R U') (ht : R t t') :
    Follows R U rename i i' (Option.Rel fun d d' => d'.name = d.name) (buildStep U c t)
      (buildStep U' c' t') := by
  have h := hU _ _ ht
  have hd : R (if U.isConstructed t then U.definition t else t)
      (if U'.isConstructed t' then U'.definition t' else t') := by
    rw [h.isConstructed]
    split
    · exact h.definition
    · exact ht
  unfold buildStep
  refine (follows_isSkipped h).bind fun _ _ hskip => ?_
  subst hskip
  refine follows_ite (fun _ => ?_) fun _ => ?_
  · rw [h.displayName]
    exact (follows_report _).bind fun _ _ _ => follows_pure .none
  · refine follows_get.bind fun r r' hr => ?_
    have hfind := hr.findType hR hd
    generalize r.findType _ = x at hfind
    generalize r'.findType _ = y at hfind
    cases hfind with
    | some hfound => exact follows_pure (.some hfound)
    | none =>
      exact (follows_declareType hR hU hc habove hd).bind fun _ _ hd => follows_pure (.some hd)

end Headers

end Steps

include hR hU

/-- Calls that may nest deeper answer what the others answer. -/
theorem follows_calls (habove : U.SharesSupertypes R U') {n n' : Nat} (hn : n ≤ n') :
    (TypeProjection.calls U n).Follows R U rename i i' (TypeProjection.calls U' n') := by
  induction n generalizing n' with
  | zero => exact ⟨fun _ _ _ _ _ _ _ _ h => (nomatch h), fun _ _ _ _ _ _ _ _ h => (nomatch h)⟩
  | succ n ih =>
    obtain ⟨n', rfl⟩ : ∃ m, n' = m + 1 := ⟨n' - 1, by omega⟩
    have hc := ih (Nat.le_of_succ_le_succ hn)
    exact ⟨fun _ _ ht => follows_resolveStep hR hU hc ht,
      fun _ _ ht => follows_buildStep hR hU hc habove ht⟩

variable (habove : U.SharesSupertypes R U') (hdepth : U.depth ≤ U'.depth)

include habove hdepth

theorem follows_declareRoot (ht : R t t') :
    Follows R U rename i i' (fun _ _ => True) (U.declareRoot t) (U'.declareRoot t') := by
  have h := hU _ _ ht
  have hc : (TypeProjection.calls U U.depth).Follows R U rename i i'
      (TypeProjection.calls U' U'.depth) :=
    follows_calls hR hU habove hdepth
  unfold Universe.declareRoot
  rw [h.isEnum, h.isStructural, h.displayName]
  refine follows_ite (fun _ => ?_) fun _ => follows_ite (fun _ => ?_) fun _ => follows_report _
  · exact (follows_buildEnum hR h ht).bind fun _ _ _ => follows_pure trivial
  · exact (hc.build _ _ ht).bind fun _ _ _ => follows_pure trivial

end Walk

/-! Whole runs. -/

/-- Related roots are declared alike. -/
theorem Universe.collect_mirrored (hR : SameKeys R) (hU : ∀ t t', R t t' → U.Mirrors R U' t t')
    (habove : U.SharesSupertypes R U') (hdepth : U.depth ≤ U'.depth) {o : Options τ} {o' : Options τ'}
    (ho : o.Mirrors R i i' o') {roots : List τ} {roots' : List τ'}
    (hroots : List.Forall₂ R roots roots') {r : Registry τ} (h : U.collect o roots = some r) :
    ∃ r', U'.collect o' roots' = some r' ∧ r.Mirrors R U o.rename i i' r' := by
  obtain ⟨⟨u, s⟩, hs, rfl⟩ := Option.map_eq_some_iff.mp h
  have hfresh : (Registry.fresh o).Mirrors R U o.rename i i' (Registry.fresh o') :=
    ⟨ho, rfl, .nil, .nil, .nil, .nil⟩
  obtain ⟨u', s', hs', -, hmirrors⟩ := Walk.follows_forM
    (fun _ _ ht => Walk.follows_declareRoot hR hU habove hdepth ht) hroots _ _ hfresh _ _ hs
  exact ⟨s', Option.map_eq_some_iff.mpr ⟨(u', s'), hs', rfl⟩, hmirrors⟩

omit [BEq τ] [BEq τ'] in
theorem TypeDeclaration.Mirrors.record {f : τ → Template.Value} {f' : τ' → Template.Value}
    (hf : ∀ t t', R t t' → f' t' = f t) {D : τ → List ParameterDraft → Prop}
    {d : TypeDeclaration τ} {d' : TypeDeclaration τ'} (h : d.Mirrors R D i i d') :
    d'.record f' = d.record f := by
  obtain ⟨hsource, hname, hmembers, header, -, hd, hd'⟩ := h
  rw [hname, hmembers] at hd'
  have hsame : (header.declare i d'.source d.name d.members).record f' =
      (header.declare i d.source d.name d.members).record f := by
    unfold TypeDeclaration.record
    rw [show f' (header.declare i d'.source d.name d.members).source = f d.source from hf _ _ hsource]
    rfl
  rw [hd', hsame, ← hd]

omit [BEq τ] [BEq τ'] in
theorem EnumDeclaration.Mirrors.record {f : τ → Template.Value} {f' : τ' → Template.Value}
    (hf : ∀ t t', R t t' → f' t' = f t) {d : EnumDeclaration τ} {d' : EnumDeclaration τ'}
    (h : d.Mirrors R d') : d'.record f' = d.record f := by
  unfold EnumDeclaration.record
  rw [hf _ _ h.source, h.name, h.fields]

theorem events_eq_of_mirrors {es es' : List Event} (h : List.Forall₂ (Event.Mirrors i i) es es') :
    es' = es := by
  have heq : List.Forall₂ Eq es es' := h.imp fun e e' he => by
    obtain rfl | ⟨_, _, rfl, rfl⟩ := he <;> rfl
  exact (List.forall₂_eq_eq_eq ▸ heq : es = es').symm

/-- A run over related roots, under one switch, writes the same text and reports the same events. -/
theorem Universe.generate_mirrored (hR : SameKeys R) (hU : ∀ t t', R t t' → U.Mirrors R U' t t')
    (habove : U.SharesSupertypes R U') (hdepth : U.depth ≤ U'.depth) {o : Options τ} {o' : Options τ'}
    (ho : o.Mirrors R i i o') {l : Template.Loader} {f : τ → Template.Value}
    {f' : τ' → Template.Value} (hf : ∀ t t', R t t' → f' t' = f t) {roots : List τ}
    {roots' : List τ'} (hroots : List.Forall₂ R roots roots') {g : Generated}
    (h : U.generate o l f roots = some g) : U'.generate o' l f' roots' = some g := by
  obtain ⟨r, hr, rfl⟩ := Option.map_eq_some_iff.mp h
  obtain ⟨r', hr', hmirrors⟩ := U.collect_mirrored hR hU habove hdepth ho hroots hr
  refine Option.map_eq_some_iff.mpr ⟨r', hr', ?_⟩
  have htypes := map_eq_of_forall₂ hmirrors.types fun _ _ hd => hd.record hf
  have henums := map_eq_of_forall₂ hmirrors.enums fun _ _ hd => hd.record hf
  have hcounts : r'.types.length = r.types.length ∧ r'.enums.length = r.enums.length :=
    ⟨hmirrors.types.length_eq.symm, hmirrors.enums.length_eq.symm⟩
  simp only [Registry.report, renderDeclarations, htypes, henums, hcounts,
    events_eq_of_mirrors hmirrors.events, ho.template]

end Runs

/-! The other way round. -/

section Flipped

variable {R : τ → τ' → Prop} {U : Universe τ} {U' : Universe τ'} {t : τ} {t' : τ'} {i i' : Bool}

theorem rel_flip {S : α → α' → Prop} {x : Option α} {y : Option α'} (h : Option.Rel S x y) :
    Option.Rel (flip S) y x := by
  cases h with
  | none => exact .none
  | some h => exact .some h

theorem forall₂_flip {S : α → α' → Prop} {xs : List α} {ys : List α'} (h : List.Forall₂ S xs ys) :
    List.Forall₂ (flip S) ys xs := List.Forall₂.flip h

theorem Universe.Mirrors.flip (h : U.Mirrors R U' t t') : U'.Mirrors (flip R) U t' t where
  displayName := h.displayName.symm
  name := h.name.symm
  isEnum := h.isEnum.symm
  isInterface := h.isInterface.symm
  isAbstract := h.isAbstract.symm
  isStructural := h.isStructural.symm
  isParameter := h.isParameter.symm
  isDefinition := h.isDefinition.symm
  isConstructed := h.isConstructed.symm
  needsConstructor := h.needsConstructor.symm
  primitive := h.primitive.symm
  definition := h.definition
  arguments := forall₂_flip h.arguments
  bounds := forall₂_flip h.bounds
  alternatives := forall₂_flip h.alternatives
  base := rel_flip h.base
  interfaces := forall₂_flip h.interfaces
  members := (forall₂_flip h.members).imp fun _ _ hm => ⟨hm.1.symm, hm.2⟩
  enumMembers := h.enumMembers.symm
  element := rel_flip h.element
  keyValue := rel_flip h.keyValue
  tuple := by
    have htuple := h.tuple
    generalize U.tuple t = x at htuple ⊢
    generalize U'.tuple t' = y at htuple ⊢
    cases htuple with
    | none => exact .none
    | some htuple => exact .some (forall₂_flip htuple)
  union := forall₂_flip h.union
  memberNotes := h.memberNotes.symm
  boundNotes := h.boundNotes.symm
  alternativeNotes := h.alternativeNotes.symm

theorem Options.Mirrors.flip {o : Options τ} {o' : Options τ'} (h : o.Mirrors R i i' o') :
    o'.Mirrors (flip R) i' i o where
  skip := h.skip.symm
  interfacesOnly := h.interfacesOnly'
  interfacesOnly' := h.interfacesOnly
  dates := h.dates.symm
  defaultBase := by
    have hbase := h.defaultBase
    generalize o.defaultBase = x at hbase ⊢
    generalize o'.defaultBase = y at hbase ⊢
    cases hbase with
    | none => exact .none
    | some hbase => exact .some fun t' t ht => (hbase t t' ht).symm
  rename := h.rename.symm
  overrides := h.overrides.symm
  template := h.template.symm

variable [BEq τ] [BEq τ']

theorem SameKeys.flip (h : SameKeys R) : SameKeys (flip R) := fun ht hu => (h ht hu).symm

/-- If all supertypes are found in the first universe, related ones are found either way. -/
theorem Universe.SharesSupertypes.flip (h : U.SharesSupertypes R U')
    (htotal : ∀ t t', R t t' → (U.supertypes t).isSome = true) :
    U'.SharesSupertypes (flip R) U := by
  intro t' t ts' ht hts'
  obtain ⟨ts, hts⟩ := Option.isSome_iff_exists.mp (htotal t t' ht)
  obtain ⟨us', hus', hrel⟩ := h t t' ts ht hts
  cases hts'.symm.trans hus'
  exact ⟨ts, hts, forall₂_flip hrel⟩

/-- A universe that holds all that another one holds generates the same from related roots, or
neither of them comes to an end. -/
theorem Universe.generate_eq (hR : SameKeys R) (hU : ∀ t t', R t t' → U.Mirrors R U' t t')
    (hextent : U.extent ≤ U'.extent) (hdepth : U'.depth = U.depth)
    (htotal : ∀ t t', R t t' → (U.supertypes t).isSome = true) {o : Options τ} {o' : Options τ'}
    (ho : o.Mirrors R i i o') {l : Template.Loader} {f : τ → Template.Value}
    {f' : τ' → Template.Value} (hf : ∀ t t', R t t' → f' t' = f t) {roots : List τ}
    {roots' : List τ'} (hroots : List.Forall₂ R roots roots') :
    U'.generate o' l f' roots' = U.generate o l f roots := by
  have habove := supertypes_mirrored hR hU hextent
  cases h : U.generate o l f roots with
  | some g => exact U.generate_mirrored hR hU habove (Nat.le_of_eq hdepth.symm) ho hf hroots h
  | none =>
    cases h' : U'.generate o' l f' roots' with
    | none => rfl
    | some g =>
      have hback := U'.generate_mirrored hR.flip (fun t' t ht => (hU t t' ht).flip)
        (habove.flip htotal) (Nat.le_of_eq hdepth) ho.flip (fun t' t ht => (hf t t' ht).symm)
        (forall₂_flip hroots) h'
      rw [h] at hback
      cases hback

end Flipped

end TypeProjection
