import TypeProjection.Proofs.Termination

/-!
# The order in which supertypes are collected

Which of the pending types is expanded next is left open here: a turn of the worklist takes any of
them, and the others may stand in any order afterwards. Whatever is taken, the types found are
above the start, and each of them is pending or expanded; so a worklist without pending types has
found all that is above the start, and nothing else. Every turn uses up one pending type and adds
none but those that it finds, so the turns come to an end in every order. The worklist that takes
the latest type first is one of these.
-/

namespace TypeProjection

open Relation

/-- The types found so far, and those that wait to be expanded. -/
structure Worklist (τ : Type) where
  found : List τ
  pending : List τ

namespace Universe

variable {τ : Type} {U : Universe τ} {s s' : Worklist τ} {start t x : τ}

/-- What is known of a worklist at every turn. -/
structure Collects (U : Universe τ) (start : τ) (s : Worklist τ) : Prop where
  nodup : s.found.Nodup
  above : ∀ x ∈ s.found, TransGen U.Extends start x
  waiting : ∀ x ∈ s.pending, x = start ∨ x ∈ s.found
  expanded : ∀ x, x = start ∨ x ∈ s.found → x ∈ s.pending ∨ ∀ d, U.Extends x d → d ∈ s.found

theorem collects_start (U : Universe τ) (start : τ) : U.Collects start ⟨[], [start]⟩ where
  nodup := List.nodup_nil
  above _ hx := (List.not_mem_nil hx).elim
  waiting _ hx := .inl (List.mem_singleton.mp hx)
  expanded x hx := by
    rcases hx with rfl | hx
    · exact .inl (List.mem_singleton_self _)
    · exact (List.not_mem_nil hx).elim

/-- A worklist that is done has found what is above the start. -/
theorem Collects.mem_iff (h : U.Collects start s) (hdone : s.pending = []) :
    x ∈ s.found ↔ TransGen U.Extends start x := by
  have hexpanded : ∀ x, x = start ∨ x ∈ s.found → ∀ d, U.Extends x d → d ∈ s.found := by
    intro x hx
    refine (h.expanded x hx).resolve_left ?_
    rw [hdone]
    exact List.not_mem_nil
  refine ⟨h.above x, fun hx => ?_⟩
  induction hx with
  | single hd => exact hexpanded start (.inl rfl) _ hd
  | tail _ hd ih => exact hexpanded _ (.inr ih) _ hd

/-- Worklists that are done have found the same types. -/
theorem Collects.perm (h : U.Collects start s) (h' : U.Collects start s') (hdone : s.pending = [])
    (hdone' : s'.pending = []) : s.found.Perm s'.found :=
  (List.perm_ext_iff_of_nodup h.nodup h'.nodup).mpr fun _ =>
    (h.mem_iff hdone).trans (h'.mem_iff hdone').symm

variable [BEq τ] {found pending ds : List τ} {fuel : Nat}

/-- One of the pending types is expanded. What is found waits with the rest, in any order. -/
inductive Turns (U : Universe τ) : Worklist τ → Worklist τ → Prop
  | expand {t : τ} {found pending rest later : List τ} (htaken : pending.Perm (t :: rest))
      (hlater : later.Perm (U.newDefinitions found t ++ rest)) :
      Turns U ⟨found, pending⟩ ⟨found ++ U.newDefinitions found t, later⟩

/-- As long as a type is pending there is a turn to take. -/
theorem exists_turn (h : s.pending ≠ []) : ∃ s', U.Turns s s' := by
  obtain ⟨found, pending⟩ := s
  obtain ⟨t, rest, rfl⟩ := List.exists_cons_of_ne_nil h
  exact ⟨_, .expand (.refl _) (.refl _)⟩

/-- To take the latest type first is to take turns. -/
theorem turns_of_supertypesFrom (h : U.supertypesFrom fuel found pending = some ds) :
    ReflTransGen U.Turns ⟨found, pending⟩ ⟨ds, []⟩ := by
  induction fuel generalizing found pending with
  | zero =>
    cases pending with
    | nil =>
      cases h
      exact .refl
    | cons t pending => cases h
  | succ fuel ih =>
    cases pending with
    | nil =>
      cases h
      exact .refl
    | cons t pending =>
      rw [supertypesFrom_cons] at h
      exact .head (.expand (.refl _) ((List.reverse_perm _).append_right _)) (ih h)

variable [LawfulBEq τ]

theorem Collects.turn (h : U.Collects start s) (hturn : U.Turns s s') : U.Collects start s' := by
  obtain @⟨t, found, pending, rest, later, htaken, hlater⟩ := hturn
  have ht : t ∈ pending := htaken.mem_iff.mpr (List.mem_cons_self ..)
  have habove : ∀ d, U.Extends t d → TransGen U.Extends start d := by
    intro d hd
    rcases h.waiting t ht with rfl | hfound
    · exact .single hd
    · exact (h.above t hfound).tail hd
  constructor
  case nodup => exact nodup_found_append (fun _ _ => beq_self_eq_true _) h.nodup
  case above =>
    intro x hx
    rcases List.mem_append.mp hx with hx | hx
    · exact h.above x hx
    · exact habove x (mem_newDefinitions.mp hx).1
  case waiting =>
    intro x hx
    rcases List.mem_append.mp (hlater.mem_iff.mp hx) with hx | hx
    · exact .inr (List.mem_append_right _ hx)
    · have hold := h.waiting x (htaken.mem_iff.mpr (List.mem_cons_of_mem _ hx))
      exact hold.imp_right (List.mem_append_left _)
  case expanded =>
    intro x hx
    -- a type is new, or it is the one taken, or it waits or is expanded as before
    have hcases : x ∈ U.newDefinitions found t ∨ x = start ∨ x ∈ found := by
      rcases hx with hx | hx
      · exact .inr (.inl hx)
      · exact (List.mem_append.mp hx).symm.imp_right .inr
    rcases hcases with hnew | hold
    · exact .inl (hlater.mem_iff.mpr (List.mem_append_left _ hnew))
    rcases h.expanded x hold with hpending | hdone
    · rcases List.mem_cons.mp (htaken.mem_iff.mp hpending) with rfl | hrest
      · refine .inr fun d hd => List.mem_append.mpr ?_
        by_cases hd' : d ∈ found
        · exact .inl hd'
        · exact .inr (mem_newDefinitions.mpr ⟨hd, hd'⟩)
      · exact .inl (hlater.mem_iff.mpr (List.mem_append_right _ hrest))
    · exact .inr fun d hd => List.mem_append_left _ (hdone d hd)

theorem Collects.turns (h : U.Collects start s) (hturns : ReflTransGen U.Turns s s') :
    U.Collects start s' := by
  induction hturns with
  | refl => exact h
  | tail _ hturn ih => exact ih.turn hturn

/-- The turns come to an end where only finitely many types are above others. -/
theorem acc_turns {ts : List τ} (hts : ∀ t d, U.Extends t d → d ∈ ts) (hnodup : s.found.Nodup)
    (hlisted : ∀ x ∈ s.found, x ∈ ts) : Acc (fun s' s => U.Turns s s') s := by
  induction hn : s.pending.length + (ts.length - s.found.length) using Nat.strongRecOn
    generalizing s with
  | ind n ih =>
    subst hn
    refine Acc.intro s fun s' hturn => ?_
    obtain @⟨t, found, pending, rest, later, htaken, hlater⟩ := hturn
    have hnodup' : (found ++ U.newDefinitions found t).Nodup :=
      nodup_found_append (fun _ _ => beq_self_eq_true _) hnodup
    have hlisted' : ∀ x ∈ found ++ U.newDefinitions found t, x ∈ ts := by
      intro x hx
      rcases List.mem_append.mp hx with hx | hx
      · exact hlisted x hx
      · exact hts t x (mem_newDefinitions.mp hx).1
    refine ih _ ?_ hnodup' hlisted' rfl
    -- a pending type is used up, and each new one is a type less that can still be found
    have hlength := (hnodup'.subperm hlisted').length_le
    have hpending := htaken.length_eq
    have hlength' := hlater.length_eq
    simp only [List.length_append, List.length_cons] at hlength hpending hlength' ⊢
    omega

end Universe

namespace TypeGraph

open Universe

/-- In every finite graph the supertypes of a type are found, and they are all that can be reached
from its definition by steps upwards: the definition itself, if it lies on a cycle. In whatever
order pending types are taken, the turns come to an end, and they end with the same types. -/
theorem supertypes_reachable (g : TypeGraph)
    (hclosed : ∀ t d, g.types.Extends t d → g.has d = true) (t : String) :
    ∃ ds, g.types.supertypes t = some ds ∧ ds.Nodup ∧
      (∀ x, x ∈ ds ↔ TransGen g.types.Extends (g.types.definition t) x) ∧
      (g.types.definition t ∈ ds ↔ g.types.OnCycle (g.types.definition t)) ∧
      Acc (fun s' s => g.types.Turns s s') ⟨[], [g.types.definition t]⟩ ∧
      ∀ s, ReflTransGen g.types.Turns ⟨[], [g.types.definition t]⟩ s →
        (s.pending ≠ [] → ∃ s', g.types.Turns s s') ∧ (s.pending = [] → s.found.Perm ds) := by
  have hkeys : ∀ t d, g.types.Extends t d → d ∈ g.nodes.map (·.1) := fun t d hd =>
    has_iff.mp (hclosed t d hd)
  have hsome : (g.types.supertypes t).isSome = true :=
    supertypes_isSome (P := fun _ => True) (fun _ _ => beq_self_eq_true _)
      (fun t _ d hd => ⟨hkeys t d hd, trivial⟩) (List.length_map _).le trivial
  obtain ⟨ds, hds⟩ := Option.isSome_iff_exists.mp hsome
  have hstart := collects_start g.types (g.types.definition t)
  have hcollects := hstart.turns (turns_of_supertypesFrom hds)
  refine ⟨ds, hds, hcollects.nodup, fun _ => hcollects.mem_iff rfl, ?_, ?_, fun s hs => ?_⟩
  · exact hcollects.mem_iff rfl
  · exact acc_turns hkeys List.nodup_nil fun _ hx => (List.not_mem_nil hx).elim
  · exact ⟨exists_turn, fun hdone => (hstart.turns hs).perm hcollects hdone rfl⟩

/-- Only nodes extend anything, so a graph is closed under steps upwards if its nodes are. -/
theorem has_of_extends {g : TypeGraph}
    (h : (g.nodes.all fun e => (g.types.directDefinitions e.1).all g.has) = true) {t d : String}
    (hd : g.types.Extends t d) : g.has d = true := by
  cases ht : g.has t with
  | true =>
    obtain ⟨e, he, rfl⟩ := List.mem_map.mp (has_iff.mp ht)
    exact List.all_eq_true.mp (List.all_eq_true.mp h e he) d hd
  | false =>
    -- a key without a node extends nothing
    have hnone : g.nodes.lookup t = none :=
      Option.isNone_iff_eq_none.mp (Option.isSome_eq_false_iff.mp ht)
    have hnode : g.node t = GraphNode.plain t := congrArg (Option.getD · _) hnone
    have hempty : g.types.directDefinitions t = [] := by
      change ((g.node t).base.toList ++ (g.node t).interfaces).map _ = []
      rw [hnode]
      rfl
    rw [Extends, hempty] at hd
    exact (List.not_mem_nil hd).elim

/-- A generic class whose definition has a definition of its own: its base and its interface extend
one interface, which extends the class again. -/
def knottedHierarchy : TypeGraph where
  nodes := [
    ("Badge", GraphNode.plain "Badge"),
    ("Badge[T]", { GraphNode.plain "Badge[T]" with
      definition := some "Badge", base := some "Named[T]", interfaces := ["Sized"] }),
    ("Badge[int]", { GraphNode.plain "Badge[int]" with definition := some "Badge[T]" }),
    ("Named[T]", { GraphNode.plain "Named[T]" with definition := some "Named" }),
    ("Named", { GraphNode.plain "Named" with interfaces := ["Keyed"] }),
    ("Sized", { GraphNode.plain "Sized" with isInterface := true, interfaces := ["Keyed"] }),
    ("Keyed", { GraphNode.plain "Keyed" with isInterface := true, interfaces := ["Badge[int]"] })]

/-- The class is above itself, in its first definition. -/
theorem supertypes_reachable_knotted :
    (∀ t d, knottedHierarchy.types.Extends t d → knottedHierarchy.has d = true) ∧
      ∃ ds, knottedHierarchy.types.supertypes "Badge[int]" = some ds ∧ ds.Nodup ∧
        (∀ x, x ∈ ds ↔ TransGen knottedHierarchy.types.Extends "Badge[T]" x) ∧
        ("Badge[T]" ∈ ds ↔ knottedHierarchy.types.OnCycle "Badge[T]") ∧
        Acc (fun s' s => knottedHierarchy.types.Turns s s') ⟨[], ["Badge[T]"]⟩ ∧
        ∀ s, ReflTransGen knottedHierarchy.types.Turns ⟨[], ["Badge[T]"]⟩ s →
          (s.pending ≠ [] → ∃ s', knottedHierarchy.types.Turns s s') ∧
            (s.pending = [] → s.found.Perm ds) := by
  have hclosed : ∀ t d, knottedHierarchy.types.Extends t d → knottedHierarchy.has d = true :=
    fun t d hd => has_of_extends (by decide) hd
  exact ⟨hclosed, supertypes_reachable knottedHierarchy hclosed "Badge[int]"⟩

example : knottedHierarchy.types.supertypes "Badge[int]" =
    some ["Named", "Sized", "Keyed", "Badge[T]"] := by decide

end TypeGraph

end TypeProjection
