import Mathlib.Data.Finset.Card
import Mathlib.Logic.Relation
import TypeProjection.Graph
import TypeProjection.Proofs.Hierarchy
import TypeProjection.Proofs.Reference

/-!
# Every walk over a finite graph ends

Every claim takes one type from those not yet known, and between two claims a walk only follows
parts of types. Where no cycle consists of parts, the parts below a type are a measure of how far
that can go, so the depth that is needed grows with the types not yet known, and the bound of a
graph is never exceeded. Nothing is asked of the registry that the walk starts at, nor of cycles
through bases, interfaces, definitions, bounds, alternatives or members.
-/

namespace TypeProjection

namespace Universe

open Walk

variable {τ : Type} [BEq τ] {U : Universe τ} {o : Options τ}

/-- Every step expands one pending type, and what it adds to the pending types it takes from those
not yet found. -/
theorem supertypesFrom_isSome {P : τ → Prop} {ts : List τ} (hself : ∀ t ∈ ts, (t == t) = true)
    (hP : ∀ t, P t → ∀ s ∈ U.directDefinitions t, s ∈ ts ∧ P s) {fuel : Nat}
    {found pending : List τ} (hfound : found.Nodup) (hlisted : ∀ t ∈ found, t ∈ ts)
    (hpending : ∀ t ∈ pending, P t)
    (hfuel : pending.length + (ts.length - found.length) ≤ fuel) :
    (U.supertypesFrom fuel found pending).isSome = true := by
  induction fuel generalizing found pending with
  | zero =>
    have hnil : pending = [] := List.length_eq_zero_iff.mp (by omega)
    subst hnil
    rfl
  | succ fuel ih =>
    cases pending with
    | nil => rfl
    | cons t pending =>
      rw [supertypesFrom_cons]
      have ht := hpending t (List.mem_cons_self ..)
      have hmem : ∀ s ∈ U.newDefinitions found t, s ∈ ts ∧ P s :=
        fun s hs => hP t ht s (extends_of_mem_newDefinitions hs)
      have hnodup : (found ++ U.newDefinitions found t).Nodup :=
        nodup_found_append (fun s hs => hself s (hP t ht s hs).1) hfound
      have hsub : ∀ s ∈ found ++ U.newDefinitions found t, s ∈ ts := by
        intro s hs
        rcases List.mem_append.mp hs with hs | hs
        · exact hlisted s hs
        · exact (hmem s hs).1
      have hlength : (found ++ U.newDefinitions found t).length ≤ ts.length :=
        (hnodup.subperm hsub).length_le
      refine ih hnodup hsub ?_ ?_
      · intro s hs
        rcases List.mem_append.mp hs with hs | hs
        · exact (hmem s (List.mem_reverse.mp hs)).2
        · exact hpending s (List.mem_cons_of_mem t hs)
      · simp only [List.length_append, List.length_reverse, List.length_cons] at hlength hfuel ⊢
        omega

/-- The supertypes of a type are found if there are no more than the extent of the universe. -/
theorem supertypes_isSome {P : τ → Prop} {ts : List τ} (hself : ∀ t ∈ ts, (t == t) = true)
    (hP : ∀ t, P t → ∀ s ∈ U.directDefinitions t, s ∈ ts ∧ P s) (hextent : ts.length ≤ U.extent)
    {t : τ} (ht : P (U.definition t)) : (U.supertypes t).isSome = true := by
  unfold supertypes
  refine supertypesFrom_isSome hself hP List.nodup_nil (fun s hs => (List.not_mem_nil hs).elim) ?_ ?_
  · exact List.forall_mem_singleton.mpr ht
  · simp only [List.length_singleton, List.length_nil]
    omega

variable [LawfulBEq τ] {S : Finset τ}

omit [BEq τ] [LawfulBEq τ] in
theorem directDefinitions_mem (hS : U.Closes (· ∈ S)) {t s : τ} (ht : t ∈ S)
    (h : s ∈ U.directDefinitions t) : s ∈ S := by
  obtain ⟨d, hd, rfl⟩ := List.mem_map.mp h
  rcases List.mem_append.mp hd with hd | hd
  · exact hS.definition d (hS.base t ht d (Option.mem_toList.mp hd))
  · exact hS.definition d (hS.interfaces t ht d hd)

theorem supertypes_isSome_of_closes (hS : U.Closes (· ∈ S)) (hextent : S.card ≤ U.extent) {t : τ}
    (ht : t ∈ S) : (U.supertypes t).isSome = true := by
  have hself : ∀ t ∈ S.toList, (t == t) = true := fun _ _ => beq_self_eq_true _
  refine supertypes_isSome (P := (· ∈ S)) hself ?_ ?_ (hS.definition t ht)
  · intro t ht s hs
    have hmem := directDefinitions_mem hS ht hs
    exact ⟨Finset.mem_toList.mpr hmem, hmem⟩
  · rwa [Finset.length_toList]

section Measure

open Classical in
/-- The parts of a type, at every depth. -/
noncomputable def below (U : Universe τ) (S : Finset τ) (t : τ) : Finset τ :=
  S.filter (Relation.TransGen U.Part t)

open Classical in
/-- The types that are not known yet. -/
noncomputable def unknown (S : Finset τ) (known : τ → Prop) : Finset τ := S.filter (¬ known ·)

/-- The depth that building needs when `m` of `n` types are not known yet. Each of them costs one
build, and the descent through at most `n` types to the next. -/
def buildDepth (n m : Nat) : Nat := (n + 1) * m + 1

variable {known : τ → Prop}

omit [BEq τ] [LawfulBEq τ] in
theorem mem_below {t p : τ} : p ∈ U.below S t ↔ p ∈ S ∧ Relation.TransGen U.Part t p := by
  classical
  exact Finset.mem_filter

omit [BEq τ] [LawfulBEq τ] in
theorem mem_unknown {k : τ} : k ∈ unknown S known ↔ k ∈ S ∧ ¬ known k := by
  classical
  exact Finset.mem_filter

omit [BEq τ] [LawfulBEq τ] in
theorem card_below_lt_of_part (hacyclic : ∀ t, ¬ Relation.TransGen U.Part t t) {t p : τ}
    (hp : p ∈ S) (h : U.Part t p) : (U.below S p).card < (U.below S t).card := by
  apply Finset.card_lt_card
  rw [Finset.ssubset_iff_of_subset]
  · exact ⟨p, mem_below.mpr ⟨hp, .single h⟩, fun hb => hacyclic p (mem_below.mp hb).2⟩
  · intro s hs
    obtain ⟨hsS, hps⟩ := mem_below.mp hs
    exact mem_below.mpr ⟨hsS, .head h hps⟩

omit [BEq τ] [LawfulBEq τ] in
theorem card_below_lt (hacyclic : ∀ t, ¬ Relation.TransGen U.Part t t) {t : τ} (ht : t ∈ S) :
    (U.below S t).card < S.card := by
  apply Finset.card_lt_card
  rw [Finset.ssubset_iff_of_subset fun s hs => (mem_below.mp hs).1]
  exact ⟨t, ht, fun hb => hacyclic t (mem_below.mp hb).2⟩

omit [BEq τ] [LawfulBEq τ] in
/-- A claim makes one type known. -/
theorem card_unknown_lt {k : τ} (hk : k ∈ S) (hnew : ¬ known k) :
    (unknown S fun j => known j ∨ j = k).card < (unknown S known).card := by
  apply Finset.card_lt_card
  rw [Finset.ssubset_iff_of_subset]
  · exact ⟨k, mem_unknown.mpr ⟨hk, hnew⟩, fun hu => (mem_unknown.mp hu).2 (.inr rfl)⟩
  · intro j hj
    obtain ⟨hjS, hj⟩ := mem_unknown.mp hj
    exact mem_unknown.mpr ⟨hjS, fun hkn => hj (.inl hkn)⟩

theorem buildDepth_lt {n m m' : Nat} (h : m' < m) : n + buildDepth n m' < buildDepth n m := by
  obtain ⟨d, rfl⟩ := Nat.exists_eq_add_of_lt h
  unfold buildDepth
  rw [Nat.mul_add, Nat.mul_add]
  omega

end Measure

/-- A registry of a run with the options `o` that knows certain types at least. -/
structure KnowsAll (o : Options τ) (known : τ → Prop) (r : Registry τ) : Prop where
  options : r.options = o
  knows : ∀ k, known k → r.Knows k

theorem knows_claimType {r : Registry τ} {d : TypeDeclaration τ} {k : τ} (h : r.Knows k) :
    (r.claimType d).Knows k := by
  obtain ⟨e, he, hek⟩ := h
  rcases List.mem_append.mp he with he | he
  · exact ⟨e, List.mem_append_left _ he, hek⟩
  cases hed : e.source == d.source with
  | true =>
    refine ⟨d, List.mem_append_right _ Registry.mem_putType_self, ?_⟩
    rwa [← eq_of_beq hed]
  | false => exact ⟨e, List.mem_append_right _ (Registry.mem_putType_of_mem he hed), hek⟩

theorem knows_registerType {r : Registry τ} {d : TypeDeclaration τ} {k : τ} (h : r.Knows k) :
    (r.registerType d).Knows k := by
  obtain ⟨e, he, hek⟩ := h
  cases hed : e.source == d.source with
  | true =>
    refine ⟨d, List.mem_append_left _ Registry.mem_putType_self, ?_⟩
    rwa [← eq_of_beq hed]
  | false =>
    refine ⟨e, ?_, hek⟩
    rcases List.mem_append.mp he with he | he
    · exact List.mem_append_left _ (Registry.mem_putType_of_mem he hed)
    · refine List.mem_append_right _ (List.mem_filter.mpr ⟨he, ?_⟩)
      rw [hed]
      rfl

theorem steady_knowsAll (U : Universe τ) (o : Options τ) (known : τ → Prop) :
    U.Steady o (KnowsAll o known) where
  options _ h := h.options
  report _ _ h := ⟨h.options, h.knows⟩
  registerEnum _ _ _ h := ⟨h.options, h.knows⟩
  placeType _ _ _ _ h := ⟨h.options, fun k hk => knows_claimType (h.knows k hk)⟩
  registerType _ _ _ _ _ h := ⟨h.options, fun k hk => knows_registerType (h.knows k hk)⟩
  setMembers _ _ _ h := ⟨h.options, fun k hk => setMembers_has (i := .type k) (h.knows k hk)⟩

/-- Calls of a certain depth end: resolving does if the depth exceeds what is below the type and
what building needs, and building does if it has what it needs. -/
theorem ends_calls (hS : U.Closes (· ∈ S)) (hextent : S.card ≤ U.extent)
    (hacyclic : ∀ t, ¬ Relation.TransGen U.Part t t) (o : Options τ) (n : Nat)
    (known : τ → Prop) :
    Keeps true (KnowsAll o known)
      (fun t => t ∈ S ∧ (U.below S t).card + buildDepth S.card (unknown S known).card < n)
      (fun t => t ∈ S ∧ buildDepth S.card (unknown S known).card ≤ n)
      (TypeProjection.calls U n) := by
  induction n generalizing known with
  | zero =>
    constructor
    · rintro t r ⟨_, hn⟩
      omega
    · rintro t r ⟨_, hn⟩
      unfold buildDepth at hn
      omega
  | succ n ih =>
    have hP := steady_knowsAll U o known
    constructor
    · rintro t r ⟨ht, hn⟩ hr
      refine (ih known).resolveStep hP.toQuiet (fun _ => ⟨ht, by omega⟩) (fun p hp => ?_) hr
      have hpS := hS.part t ht p hp
      have hlt := card_below_lt_of_part hacyclic hpS hp
      exact ⟨hpS, by omega⟩
    · rintro t r ⟨ht, hn⟩ hr
      refine keeps_buildStep hP.toQuiet (fun _ hnew => ?_) hr
      have hk : U.normal t ∈ S := by
        unfold normal
        split
        · exact hS.definition t ht
        · exact ht
      have hknown : ¬ known (U.normal t) := fun h => hnew (hr.knows _ h)
      have hlt := buildDepth_lt (n := S.card) (card_unknown_lt hk hknown)
      -- After the claim one type fewer is unknown, so the calls reach every type of the graph.
      have hc : Keeps true (KnowsAll o fun j => known j ∨ j = U.normal t) (· ∈ S) (· ∈ S)
          (TypeProjection.calls U n) := by
        refine (ih _).mono (fun s hs => ⟨hs, ?_⟩) fun s hs => ⟨hs, ?_⟩
        · have hbelow := card_below_lt hacyclic hs
          omega
        · omega
      have hclaim : KnowsAll o (fun j => known j ∨ j = U.normal t)
          (r.claimType (U.begun o (U.normal t))) := by
        refine ⟨hr.options, fun j hj => ?_⟩
        rw [claimType_knows (d := U.begun o (U.normal t)) hnew]
        rcases hj with hj | rfl
        · exact .inl (hr.knows j hj)
        · exact .inr (beq_self_eq_true _)
      have hends := hc.declareType (steady_knowsAll U o _) hS
        (fun _ s hs => supertypes_isSome_of_closes hS hextent hs) hk hr.options hclaim
      exact hends.mono fun _ r' h => ⟨h.options, fun j hj => h.knows j (.inl hj)⟩

/-- A walk ends if the depth of the universe is quadratic in the number of its types. -/
theorem ends_walk (hS : U.Closes (· ∈ S)) (hextent : S.card ≤ U.extent)
    (hdepth : (S.card + 1) * (S.card + 1) ≤ U.depth)
    (hacyclic : ∀ t, ¬ Relation.TransGen U.Part t t) (o : Options τ) :
    Keeps true (KnowsAll o fun _ => False) (· ∈ S) (· ∈ S) U.calls := by
  have hunknown : (unknown S fun _ => False).card ≤ S.card :=
    Finset.card_le_card fun k hk => (mem_unknown.mp hk).1
  have hmul := Nat.mul_le_mul_left (S.card + 1) hunknown
  have hcalls := ends_calls hS hextent hacyclic o U.depth fun _ => False
  unfold buildDepth at hcalls
  rw [Nat.mul_succ] at hdepth
  refine hcalls.mono (fun t ht => ⟨ht, ?_⟩) fun t ht => ⟨ht, ?_⟩
  · have hbelow := card_below_lt hacyclic ht
    omega
  · omega

end Universe

namespace TypeGraph

open Universe Walk

/-- Every key that a node names has a node. -/
def Closed (g : TypeGraph) : Prop := g.types.Closes fun t => g.has t = true

theorem has_iff {g : TypeGraph} {key : String} : g.has key = true ↔ key ∈ g.nodes.map (·.1) := by
  unfold has
  induction g.nodes with
  | nil => simp
  | cons entry nodes ih =>
    obtain ⟨k, node⟩ := entry
    cases hk : key == k with
    | true =>
      rw [List.lookup_cons, hk, eq_of_beq hk]
      simp
    | false =>
      have hne : key ≠ k := by simpa using hk
      rw [List.lookup_cons, hk]
      simp only [List.map_cons, List.mem_cons, hne, false_or]
      exact ih

/-- Over a graph in which no cycle consists of parts, every walk ends, at whatever registry it
starts and however its types extend, bound and mention each other. -/
theorem walk_ends (g : TypeGraph) (hclosed : g.Closed)
    (hacyclic : ∀ t, ¬ Relation.TransGen g.types.Part t t) (r : Registry String) :
    (∀ t, g.has t = true → (g.types.resolve t r).isSome = true ∧
      (g.types.build t r).isSome = true ∧ (g.types.supertypes t).isSome = true) ∧
    ∀ roots, (∀ t ∈ roots, g.has t = true) → (g.types.declareRoots roots r).isSome = true := by
  have hS : ∀ t, t ∈ (g.nodes.map (·.1)).toFinset ↔ g.has t = true := fun t => by
    rw [List.mem_toFinset, has_iff]
  generalize hkeys : (g.nodes.map (·.1)).toFinset = S at hS
  have hcard : S.card ≤ g.nodes.length := by
    have hle := (g.nodes.map (·.1)).toFinset_card_le
    rwa [hkeys, List.length_map] at hle
  have hcloses : g.types.Closes (· ∈ S) := by
    have hD : (· ∈ S) = fun t => g.has t = true := funext fun t => propext (hS t)
    rw [hD]
    exact hclosed
  have hextent : S.card ≤ g.types.extent := hcard
  have hdepth : (S.card + 1) * (S.card + 1) ≤ g.types.depth :=
    Nat.mul_le_mul (by omega) (by omega)
  have hends := ends_walk hcloses hextent hdepth hacyclic r.options
  have hr : KnowsAll r.options (fun _ => False) r := ⟨rfl, fun _ h => h.elim⟩
  have hsome : ∀ {α : Type} {act : Walk String α} {Q : α → Registry String → Prop},
      Ends true act r Q → (act r).isSome = true := by
    intro α act Q h
    obtain ⟨a, r', hact, _⟩ := ends_strict.mp h
    rw [hact]
    rfl
  refine ⟨fun t ht => ⟨?_, ?_, ?_⟩, fun roots hroots => ?_⟩
  · exact hsome (hends.resolve t r ((hS t).mpr ht) hr)
  · exact hsome (hends.build t r ((hS t).mpr ht) hr)
  · exact supertypes_isSome_of_closes hcloses hextent ((hS t).mpr ht)
  · exact hsome (hends.declareRoots (steady_knowsAll g.types r.options _).toQuiet
      (fun t ht _ => (hS t).mpr (hroots t ht)) hr)

/-- A type whose member is a sequence of a type that extends it. -/
def childList : TypeGraph where
  nodes := [
    ("A", { GraphNode.plain "A" with members := [("children", "L")] }),
    ("L", { GraphNode.plain "L" with isStructural := false, element := some "B" }),
    ("B", { GraphNode.plain "B" with base := some "A" })]

theorem part_childList {t p : String} (h : childList.types.Part t p) : t = "L" ∧ p = "B" := by
  by_cases hL : t = "L"
  · subst hL
    cases h with
    | element he =>
      cases he
      exact ⟨rfl, rfl⟩
    | member hm => exact (List.not_mem_nil hm).elim
    | key hk => exact nomatch hk
    | value hk => exact nomatch hk
    | item hi _ => exact nomatch hi
    | argument hc _ => exact nomatch hc
  · have hnode : (childList.node t).union = [] ∧ (childList.node t).element = none ∧
        (childList.node t).keyValue = none ∧ (childList.node t).tuple = none ∧
        (childList.node t).isConstructed = false := by
      by_cases hA : t = "A"
      · subst hA
        exact ⟨rfl, rfl, rfl, rfl, rfl⟩
      by_cases hB : t = "B"
      · subst hB
        exact ⟨rfl, rfl, rfl, rfl, rfl⟩
      have hnone : childList.nodes.lookup t = none := by
        simp [childList, List.lookup_cons, hA, hB, hL, beq_eq_false_iff_ne.mpr]
      unfold node
      rw [hnone]
      exact ⟨rfl, rfl, rfl, rfl, rfl⟩
    obtain ⟨hu, he, hk, ht, hc⟩ := hnode
    cases h with
    | member h =>
      have hm : p ∈ (childList.node t).union := h
      rw [hu] at hm
      exact (List.not_mem_nil hm).elim
    | element h => exact nomatch he.symm.trans h
    | key h => exact nomatch hk.symm.trans h
    | value h => exact nomatch hk.symm.trans h
    | item h _ => exact nomatch ht.symm.trans h
    | argument h _ => exact nomatch hc.symm.trans h

/-- The walk over both types ends while one of them is in progress. -/
theorem walk_ends_childList :
    (childList.types.declareRoots ["A", "B"] ((Registry.fresh Options.default).claimType
      (childList.types.begun Options.default "B"))).isSome = true := by
  have hkeys : ∀ t, childList.has t = true → t = "A" ∨ t = "L" ∨ t = "B" := by
    intro t ht
    simpa [childList] using has_iff.mp ht
  have hclosed : childList.Closed := by
    constructor
    · intro t ht
      rcases hkeys t ht with rfl | rfl | rfl <;> rfl
    · intro t _ p hp
      rw [(part_childList hp).2]
      rfl
    · intro t ht b hb
      rcases hkeys t ht with rfl | rfl | rfl <;> cases hb
      rfl
    · intro t ht i hi
      rcases hkeys t ht with rfl | rfl | rfl <;> exact (List.not_mem_nil hi).elim
    · intro t ht a ha
      rcases hkeys t ht with rfl | rfl | rfl <;> exact (List.not_mem_nil ha).elim
    · intro t ht b hb
      rcases hkeys t ht with rfl | rfl | rfl <;> exact (List.not_mem_nil hb).elim
    · intro t ht a ha
      rcases hkeys t ht with rfl | rfl | rfl <;> exact (List.not_mem_nil ha).elim
    · intro t ht m hm
      rcases hkeys t ht with rfl | rfl | rfl
      · cases List.mem_singleton.mp hm
        rfl
      · exact (List.not_mem_nil hm).elim
      · exact (List.not_mem_nil hm).elim
  have hacyclic : ∀ t, ¬ Relation.TransGen childList.types.Part t t := by
    intro t ht
    obtain ⟨p, hp, _⟩ := Relation.TransGen.head'_iff.mp ht
    obtain ⟨q, _, hq⟩ := Relation.TransGen.tail'_iff.mp ht
    have hL := (part_childList hp).1
    rw [(part_childList hq).2] at hL
    exact absurd hL (by decide)
  refine (walk_ends childList hclosed hacyclic _).2 ["A", "B"] ?_
  intro t ht
  rcases List.mem_cons.mp ht with rfl | ht
  · rfl
  · cases List.mem_singleton.mp ht
    rfl

end TypeGraph

end TypeProjection
