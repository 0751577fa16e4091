import TypeProjection.Proofs.MirroredUniverses

/-!
# Classes as interfaces

The switch that declares every class as an interface changes headers only. Every universe mirrors
itself, so the runs under the two positions of the switch keep in step: they ask for the same
types in the same order, and each type is declared from one draft of its header.
-/

namespace TypeProjection

variable {τ : Type}

/-- What the switch makes of a declaration: an interface with the members of the class, which
extends all that the class extends or implements. Its parameters have the names and the references
that constrain them from the same drafts, and ask for no constructor where those of the class do. -/
structure TypeDeclaration.Switched (U : Universe τ) (rename : String → String)
    (d d' : TypeDeclaration τ) : Prop where
  source : d'.source = d.source
  name : d'.name = d.name
  members : d'.members = d.members
  isInterface : d'.isInterface = true
  isAbstract : d'.isAbstract = false
  bases : d'.bases = d.bases ++ d.implements
  implements : d'.implements = []
  typeParameters : ∃ ps : List ParameterDraft, U.Drafts rename d.source ps ∧
    d.typeParameters = ps.map (fun p => p.text d.isInterface) ∧
    d'.typeParameters = ps.map (fun p => p.text true)

/-! A union stands in parentheses only beside the part that asks for a constructor. -/

example : (ParameterDraft.mk "T" ["A | B"] true).text false =
    "T extends (A | B) & \x7b new(): T \x7d" := by decide

example : (ParameterDraft.mk "T" ["A | B"] true).text true = "T extends A | B" := by decide

theorem DeclarationKind.ofInterface_beq (a : Bool) :
    (DeclarationKind.ofInterface a == .interfaceKind) = a := by
  cases a <;> rfl

theorem HeaderDraft.isInterface_declare (h : HeaderDraft) (i : Bool) (source : τ) (name : String)
    (members : List MemberDeclaration) :
    (h.declare i source name members).isInterface = (h.isInterface || i) :=
  DeclarationKind.ofInterface_beq _

/-- The declarations that one draft gives under the two positions of the switch. -/
theorem HeaderDraft.switched_declare {U : Universe τ} {rename : String → String} (h : HeaderDraft)
    {source : τ} (hdrafts : U.Drafts rename source h.parameters) (name : String)
    (members : List MemberDeclaration) :
    (h.declare false source name members).Switched U rename
      (h.declare true source name members) where
  source := rfl
  name := rfl
  members := rfl
  isInterface := by rw [isInterface_declare, Bool.or_true]
  isAbstract := by simp [declare]
  bases := by
    cases hi : h.isInterface <;> simp [declare, hi]
  implements := by simp [declare]
  typeParameters := by
    refine ⟨h.parameters, hdrafts, ?_, ?_⟩
    · rw [isInterface_declare]
      rfl
    · simp [declare]

theorem TypeDeclaration.Mirrors.switched {U : Universe τ} {rename : String → String}
    {d d' : TypeDeclaration τ} (h : d.Mirrors Eq (U.Drafts rename) false true d') :
    d.Switched U rename d' := by
  obtain ⟨hsource, hname, hmembers, header, hdrafts, hd, hd'⟩ := h
  rw [← hsource, hname, hmembers] at hd'
  have hswitched := header.switched_declare hdrafts d.name d.members
  rwa [← hd, ← hd'] at hswitched

theorem EnumDeclaration.Mirrors.eq {d d' : EnumDeclaration τ} (h : d.Mirrors Eq d') : d = d' := by
  obtain ⟨hsource, hname, hfields⟩ := h
  cases d
  cases d'
  cases hsource
  cases hname
  cases hfields
  rfl

/-- A universe answers what it answers. -/
theorem Universe.mirrors_refl (U : Universe τ) (t : τ) : U.Mirrors Eq U t t := by
  have hoption : ∀ {α : Type} {S : α → α → Prop}, (∀ a, S a a) → ∀ x : Option α, Option.Rel S x x :=
    fun hS x => by
      cases x with
      | none => exact .none
      | some a => exact .some (hS a)
  exact {
    displayName := rfl
    name := rfl
    isEnum := rfl
    isInterface := rfl
    isAbstract := rfl
    isStructural := rfl
    isParameter := rfl
    isDefinition := rfl
    isConstructed := rfl
    needsConstructor := rfl
    primitive := rfl
    definition := rfl
    arguments := List.forall₂_refl _
    bounds := List.forall₂_refl _
    alternatives := List.forall₂_refl _
    base := hoption (fun _ => rfl) _
    interfaces := List.forall₂_refl _
    members := List.forall₂_same.mpr fun _ _ => ⟨rfl, rfl⟩
    enumMembers := rfl
    element := hoption (fun _ => rfl) _
    keyValue := hoption (fun _ => ⟨rfl, rfl⟩) _
    tuple := hoption (fun ts => List.forall₂_refl ts) _
    union := List.forall₂_refl _
    memberNotes := rfl
    boundNotes := rfl
    alternativeNotes := rfl }

/-- Options that differ in the switch only ask for the same otherwise. -/
theorem Options.mirrors_switch (o : Options τ) (i i' : Bool) :
    ({ o with interfacesOnly := i } : Options τ).Mirrors Eq i i' { o with interfacesOnly := i' } := by
  refine ⟨rfl, rfl, rfl, rfl, ?_, rfl, rfl, rfl⟩
  change Option.Rel _ o.defaultBase o.defaultBase
  cases o.defaultBase with
  | none => exact .none
  | some f => exact .some fun _ _ h => by rw [h]

variable [BEq τ]

/-- Under the two positions of the switch, whichever way round, a run that ends in one ends in the
other. -/
theorem Universe.collect_switch (U : Universe τ) (o : Options τ) (roots : List τ) (i i' : Bool)
    {r : Registry τ} (h : U.collect { o with interfacesOnly := i } roots = some r) :
    ∃ r', U.collect { o with interfacesOnly := i' } roots = some r' ∧
      r.Mirrors Eq U o.rename i i' r' := by
  have hsame : SameKeys (Eq (α := τ)) := by
    rintro _ _ _ _ rfl rfl
    rfl
  have hmirrors : ∀ t t', t = t' → U.Mirrors Eq U t t' := by
    rintro t _ rfl
    exact U.mirrors_refl t
  exact U.collect_mirrored hsame hmirrors (supertypes_mirrored hsame hmirrors (Nat.le_refl _))
    (Nat.le_refl _) (o.mirrors_switch i i') (List.forall₂_refl roots) h

/-- Declaring every class as an interface changes nothing but headers: the same types and
enumerations are declared in the same order, with the same names and members, and every parameter
is written from one draft, with the part that asks for a constructor or without it. -/
theorem Universe.switch_changes_headers (U : Universe τ) (o : Options τ) (roots : List τ) :
    Option.Rel (fun r r' =>
        List.Forall₂ (TypeDeclaration.Switched U o.rename) r.types r'.types ∧
        r'.enums = r.enums)
      (U.collect { o with interfacesOnly := false } roots)
      (U.collect { o with interfacesOnly := true } roots) := by
  cases h : U.collect { o with interfacesOnly := false } roots with
  | none =>
    cases h' : U.collect { o with interfacesOnly := true } roots with
    | none => exact .none
    | some r' =>
      obtain ⟨r, hr, -⟩ := U.collect_switch o roots true false h'
      rw [h] at hr
      cases hr
  | some r =>
    obtain ⟨r', hr', hmirrors⟩ := U.collect_switch o roots false true h
    rw [hr']
    refine .some ⟨hmirrors.types.imp fun _ _ hd => hd.switched, ?_⟩
    have henums : List.Forall₂ Eq r.enums r'.enums := hmirrors.enums.imp fun _ _ hd => hd.eq
    exact (List.forall₂_eq_eq_eq ▸ henums : r.enums = r'.enums).symm

end TypeProjection
