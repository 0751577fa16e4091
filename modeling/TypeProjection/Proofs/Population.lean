import TypeProjection.Graph
import TypeProjection.Proofs.Building

/-!
# A run registers what its roots need

After a run, the registered declarations are those that the roots need, each of them once, and
each is the record of its type. The walk leaves out whatever it finds claimed already, in an order
that the roots and all cycles between declarations decide; none of that is left in the result.
-/

namespace TypeProjection.Universe

variable {τ : Type} [BEq τ]

/-- The registry of a run over some roots: nothing that they need is missing, and nothing else is
registered. -/
structure Populated (U : Universe τ) (o : Options τ) (roots : List τ) (r : Registry τ) : Prop where
  typesRequired : ∀ d ∈ r.types, U.Required o roots (.type d.source)
  enumsRequired : ∀ e ∈ r.enums, U.Required o roots (.enumeration e.source)
  typesFound : ∀ k, U.Required o roots (.type k) → ∃ d ∈ r.types, (d.source == k) = true
  enumsFound : ∀ t, U.Required o roots (.enumeration t) →
    ∃ e ∈ r.enums, e.source = t ∨ (e.source == t) = true
  typesOnce : r.types.Pairwise fun d e => (d.source == e.source) = false
  enumsOnce : r.enums.Pairwise fun d e => (d.source == e.source) = false
  records : ∀ d ∈ r.types, U.declaration o U.depth d.source = some d
  enumRecords : ∀ e ∈ r.enums, e = U.enumeration o e.source
  finished : r.inProgress = []

variable {U : Universe τ} {K : τ → Prop} {o : Options τ} {n : Nat} {roots : List τ}
  {r : Registry τ} {types : List (TypeDeclaration τ)} {enums : List (EnumDeclaration τ)}

/-- What was added to the empty registry is all there is. -/
theorem Adds.of_fresh {asked : Item τ → Prop}
    (h : U.Adds K o n asked (Registry.fresh o) r types enums) :
    r.types = types ∧ r.enums = enums ∧ r.inProgress = [] :=
  ⟨h.types_eq, h.enums_eq, h.inProgress_eq⟩

/-- A registry that has what the roots ask for and what each declaration needs has all that the
roots need. -/
theorem Adds.has_required (hU : U.Coherent K)
    (h : U.Adds K o n (U.RootItem o roots) (Registry.fresh o) r types enums)
    (hroots : ∀ i, U.RootItem o roots i → r.Has i) {i : Item τ} (hi : U.Required o roots i) :
    r.Has i := by
  obtain ⟨htypes, _, hprogress⟩ := h.of_fresh
  induction hi with
  | seed hs => exact hroots _ hs
  | @step k i hk _ hn ih =>
    obtain ⟨d, hd, hdk⟩ := ih
    rw [hprogress, List.append_nil, htypes] at hd
    have hK : K k := hk.key hU fun j hj => hj.key hU
    exact (h.finished d hd).complete i ((hU.alike _ _ hK hdk).symm.needs hn)

/-- Whatever the options, the roots and the cycles, a run that ends has registered what the roots
need and nothing else, and its records depend on their types and the options only. -/
theorem populated_of_collect (hU : U.Coherent K) (h : U.collect o roots = some r) :
    U.Populated o roots r := by
  obtain ⟨⟨types, enums, ha⟩, hroots⟩ := serves_collect hU h
  obtain ⟨rfl, rfl, hprogress⟩ := ha.of_fresh
  have hstop : ∀ k, False → (Registry.fresh o).Knows k := fun _ hk => hk.elim
  constructor
  · exact fun d hd => (ha.finished d hd).reached.mono hstop fun _ hi => hi
  · exact fun e he => (ha.listed e he).reached.mono hstop fun _ hi => hi
  · intro k hk
    obtain ⟨d, hd, hdk⟩ := ha.has_required hU hroots hk
    rw [hprogress, List.append_nil] at hd
    exact ⟨d, hd, hdk⟩
  · exact fun t ht => ha.has_required hU hroots ht
  · exact ha.distinct
  · exact ha.distinctEnum
  · exact fun d hd => (ha.finished d hd).record
  · exact fun e he => (ha.listed e he).record
  · exact hprogress

/-- A generic type whose parameter is bounded by a type that extends it. -/
def selfBounded : TypeGraph where
  nodes := [
    ("A", { GraphNode.plain "A" with isDefinition := true, arguments := ["T"] }),
    ("T", { GraphNode.plain "T" with isStructural := false, isParameter := true, bounds := ["B"] }),
    ("B", { GraphNode.plain "B" with base := some "A" })]

/-- The run over the generic type ends, and it has registered both types. -/
theorem populated_selfBounded :
    ∃ r, selfBounded.types.collect Options.default ["A"] = some r ∧
      r.types.map (·.source) = ["B", "A"] ∧
      selfBounded.types.Populated Options.default ["A"] r := by
  have hrun : (selfBounded.types.collect Options.default ["A"]).map
      (fun r => r.types.map (·.source)) = some ["B", "A"] := by decide +kernel
  obtain ⟨r, hr, hsources⟩ := Option.map_eq_some_iff.mp hrun
  exact ⟨r, hr, hsources, populated_of_collect (coherent_of_lawful _) hr⟩

end TypeProjection.Universe
