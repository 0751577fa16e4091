import TypeProjection.Proofs.Population
import TypeProjection.Proofs.Traversal

/-!
# References do not depend on the registry

The text that refers to a type is its reading, at whatever registry it is asked for: before a run,
after one, or in the midst of one, with declarations in progress and members missing. A walk uses
such declarations for their names only, and every declaration bears the name of its type from the
claim on.
-/

namespace TypeProjection

namespace Universe

variable {τ : Type} [BEq τ]

/-- The registries at which a walk with the options `o` can stand, at any point of any sequence of
calls: the empty one, and whatever one change of a walk makes of another. Claims, headers and
members are not asked to be the right ones. -/
inductive Reached (U : Universe τ) (o : Options τ) : Registry τ → Prop
  | fresh : Reached U o (Registry.fresh o)
  | report {r : Registry τ} (e : Event) : Reached U o r → Reached U o (r.report e)
  | claimType {r : Registry τ} (k : τ) : Reached U o r → Reached U o (r.claimType (U.begun o k))
  | placeType {r : Registry τ} (k : τ) (base : Option String) (interfaces : List String) :
      Reached U o r → Reached U o (r.claimType (U.headed o k base interfaces []))
  | registerType {r : Registry τ} (k : τ) (base : Option String)
      (interfaces parameters : List String) : Reached U o r →
      Reached U o (r.registerType (U.headed o k base interfaces parameters))
  | setMembers {r : Registry τ} (k : τ) (ms : List MemberDeclaration) : Reached U o r →
      Reached U o (r.setMembers k ms)
  | registerEnum {r : Registry τ} (t : τ) : Reached U o r →
      Reached U o (r.registerEnum (U.enumeration o t))

variable {U : Universe τ} {K : τ → Prop} {o : Options τ} {n : Nat} {r r' : Registry τ}

theorem Reached.ready (h : U.Reached o r) : U.Ready o r := by
  induction h with
  | fresh => exact ready_fresh U o
  | report e _ ih => exact ih.withEvents _
  | claimType k _ ih => exact ⟨ih.named.claimType (by rw [ih.options]; rfl), ih.options⟩
  | placeType k base interfaces _ ih =>
    exact ⟨ih.named.claimType (by rw [ih.options]; rfl), ih.options⟩
  | registerType k base interfaces parameters _ ih =>
    exact ⟨ih.named.registerType (by rw [ih.options]; rfl), ih.options⟩
  | setMembers k ms _ ih => exact ⟨ih.named.setMembers k ms, ih.options⟩
  | registerEnum t _ ih => exact ⟨ih.named.registerEnum (by rw [ih.options]; rfl), ih.options⟩

theorem steady_reached (U : Universe τ) (o : Options τ) : U.Steady o (U.Reached o) where
  options _ h := h.ready.options
  report _ e h := h.report e
  registerEnum _ t _ h := h.registerEnum t
  placeType _ k base interfaces h := h.placeType k base interfaces
  registerType _ k base interfaces parameters h := h.registerType k base interfaces parameters
  setMembers _ k ms h := h.setMembers k ms

omit [BEq τ] in
theorem closes_all (U : Universe τ) : U.Closes fun _ => True := by
  constructor <;> intros <;> trivial

end Universe

open Universe Walk

variable {τ : Type} [BEq τ] {U : Universe τ} {K : τ → Prop} {o : Options τ} {r r' : Registry τ}

/-- Calls lead from reached registries to reached ones. -/
theorem keeps_calls (U : Universe τ) (o : Options τ) (n : Nat) :
    Keeps false (U.Reached o) (fun _ => True) (fun _ => True) (calls U n) := by
  have hP := steady_reached U o
  induction n with
  | zero => exact ⟨fun _ _ _ _ => rfl, fun _ _ _ _ => rfl⟩
  | succ n ih =>
    constructor
    · exact fun t r _ hr => ih.resolveStep hP.toQuiet (fun _ => trivial) (fun _ _ => trivial) hr
    · refine fun t r _ hr => keeps_buildStep hP.toQuiet (fun _ _ => ?_) hr
      exact ih.declareType hP (closes_all U) (fun h => nomatch h) trivial hr.ready.options
        (hr.claimType (U.normal t))

/-- At every point of a run, an answer to what refers to a type is the reading of that type, and
every call leads on to such a point. -/
theorem resolve_eq_reading (hU : U.Coherent K) (n : Nat) (hr : U.Reached o r) :
    (∀ t s r', (calls U n).resolve t r = some (s, r') →
      U.reading o n t = some s ∧ U.Reached o r') ∧
    (∀ t x r', (calls U n).build t r = some (x, r') → U.Reached o r') ∧
    (∀ t x r', buildEnum U t r = some (x, r') → U.Reached o r') ∧
    ∀ roots u r', U.declareRoots roots r = some (u, r') → U.Reached o r' := by
  have hkeeps := keeps_calls U o n
  refine ⟨fun t s r' h => ⟨?_, ?_⟩, fun t => ?_, fun t => ?_, fun roots => ?_⟩
  · exact (ends_loose.mp ((follow_calls hU o n).resolve t r hr.ready) s r' h).1
  · exact ends_loose.mp (hkeeps.resolve t r trivial hr) s r' h
  · exact ends_loose.mp (hkeeps.build t r trivial hr)
  · exact ends_loose.mp (keeps_buildEnum (steady_reached U o).toQuiet t hr)
  · exact ends_loose.mp ((keeps_calls U o U.depth).declareRoots (steady_reached U o).toQuiet
      (fun _ _ _ => trivial) hr)

/-- A type is referred to while the type that it extends is only claimed. -/
theorem resolve_eq_reading_claimed :
    let r := (Registry.fresh Options.default).claimType
      (selfBounded.types.begun Options.default "A")
    ∃ r', selfBounded.types.resolve "B" r = some ("B", r') ∧
      selfBounded.types.reading Options.default selfBounded.types.depth "B" = some "B" := by
  intro r
  have hr : selfBounded.types.Reached Options.default r := Reached.fresh.claimType "A"
  have hrun : (selfBounded.types.resolve "B" r).map (·.1) = some "B" := by rfl
  obtain ⟨⟨s, r'⟩, hr', rfl⟩ := Option.map_eq_some_iff.mp hrun
  have hread := (resolve_eq_reading (coherent_of_lawful _) selfBounded.types.depth hr).1
  exact ⟨r', hr', (hread "B" _ r' hr').1⟩

end TypeProjection
