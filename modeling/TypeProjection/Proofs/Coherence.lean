import TypeProjection.Proofs.Reading

/-!
# What a provider promises of equality

Declarations are found by their keys, so a walk is right only if equal keys stand for one type.
`Coherent` says so of the keys `K` alone: on them `==` is an equivalence, and whatever is equal to
a key has the same declaration. Nothing is asked of other types. Where `==` is identity, every
type may be a key.
-/

namespace TypeProjection.Universe

variable {τ : Type}

/-- Two types give rise to one declaration. The display names may differ. -/
structure Alike (U : Universe τ) (x y : τ) : Prop where
  name : U.name x = U.name y
  isInterface : U.isInterface x = U.isInterface y
  isAbstract : U.isAbstract x = U.isAbstract y
  isDefinition : U.isDefinition x = U.isDefinition y
  arguments : U.arguments x = U.arguments y
  base : U.base x = U.base y
  interfaces : U.interfaces x = U.interfaces y
  members : U.members x = U.members y

theorem Alike.symm {U : Universe τ} {x y : τ} (h : U.Alike x y) : U.Alike y x :=
  ⟨h.name.symm, h.isInterface.symm, h.isAbstract.symm, h.isDefinition.symm, h.arguments.symm,
    h.base.symm, h.interfaces.symm, h.members.symm⟩

theorem Alike.trans {U : Universe τ} {x y z : τ} (h : U.Alike x y) (h' : U.Alike y z) :
    U.Alike x z :=
  ⟨h.name.trans h'.name, h.isInterface.trans h'.isInterface, h.isAbstract.trans h'.isAbstract,
    h.isDefinition.trans h'.isDefinition, h.arguments.trans h'.arguments, h.base.trans h'.base,
    h.interfaces.trans h'.interfaces, h.members.trans h'.members⟩

variable [BEq τ]

/-- Equality tells the keys `K` apart, and among them are those of all structures. -/
structure Coherent (U : Universe τ) (K : τ → Prop) : Prop where
  structural : ∀ t, U.isStructural t = true → K (U.normal t)
  refl : ∀ k, K k → (k == k) = true
  symm : ∀ k l, K k → K l → (k == l) = true → (l == k) = true
  trans : ∀ j k l, K j → K k → K l → (j == k) = true → (k == l) = true → (j == l) = true
  alike : ∀ x k, K k → (x == k) = true → U.Alike x k
  enumName : ∀ x t, U.isEnum t = true → (x == t) = true → U.name x = U.name t

theorem coherent_of_lawful [LawfulBEq τ] (U : Universe τ) : U.Coherent fun _ => True where
  structural _ _ := trivial
  refl _ _ := beq_self_eq_true _
  symm k l _ _ h := by
    rw [eq_of_beq h]
    exact beq_self_eq_true l
  trans j k l _ _ _ h h' := by
    rw [eq_of_beq h]
    exact h'
  alike x k _ h := by
    rw [eq_of_beq h]
    exact ⟨rfl, rfl, rfl, rfl, rfl, rfl, rfl, rfl⟩
  enumName x t _ h := by rw [eq_of_beq h]

end TypeProjection.Universe
