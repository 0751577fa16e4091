import Mathlib.Logic.Relation
import TypeProjection.Proofs.Coherence
import TypeProjection.Proofs.DistinctLists

/-!
# The types above a type

One type extends another if the other is the definition of one of its direct supertypes. What the
worklist collects from a type is all that can be reached by such steps, whatever the shape of the
hierarchy: nothing above is missed, with diamonds and cycles in any place, and nothing else is
found.
-/

namespace TypeProjection

namespace Universe

open Relation

variable {τ : Type} {U : Universe τ}

/-- A type extends the definitions of its direct supertypes. -/
def Extends (U : Universe τ) (t d : τ) : Prop := d ∈ U.directDefinitions t

theorem extends_of_base {t b : τ} (h : U.base t = some b) : U.Extends t (U.definition b) :=
  List.mem_map_of_mem (List.mem_append_left _ (Option.mem_toList.mpr h))

theorem extends_of_interface {t i : τ} (h : i ∈ U.interfaces t) :
    U.Extends t (U.definition i) :=
  List.mem_map_of_mem (List.mem_append_right _ h)

theorem Alike.extends {x y d : τ} (h : U.Alike x y) (hd : U.Extends x d) : U.Extends y d := by
  unfold Extends directDefinitions directSupertypes at hd ⊢
  rwa [← h.base, ← h.interfaces]

/-- Types that are alike have the same types above them. -/
theorem Alike.above {x y d : τ} (h : U.Alike x y) (hd : TransGen U.Extends x d) :
    TransGen U.Extends y d := by
  obtain ⟨c, hc, hcd⟩ := TransGen.head'_iff.mp hd
  exact TransGen.head' (h.extends hc) hcd

/-- A set of keys that no step upwards leaves. -/
structure Rising (U : Universe τ) (K S : τ → Prop) : Prop where
  key : ∀ t, S t → K t
  step : ∀ t, S t → ∀ d, U.Extends t d → S d

/-- Steps upwards lead from a type to itself. -/
def OnCycle (U : Universe τ) (t : τ) : Prop := TransGen U.Extends t t

theorem Rising.above {K S : τ → Prop} {t d : τ} (hS : U.Rising K S) (ht : S t)
    (h : TransGen U.Extends t d) : S d := by
  induction h with
  | single hd => exact hS.step t ht _ hd
  | tail _ hd ih => exact hS.step _ ih _ hd

variable [BEq τ] {K S : τ → Prop} {fuel : Nat} {found pending ds : List τ} {t d : τ}

/-- Every key of a list is equal to one that stays. -/
theorem Coherent.exists_mem_distinct (hU : U.Coherent K) {xs : List τ} (hxs : ∀ x ∈ xs, K x)
    {x : τ} (hx : x ∈ xs) : ∃ y ∈ distinct xs, (x == y) = true := by
  induction xs with
  | nil => exact (List.not_mem_nil hx).elim
  | cons a xs ih =>
    have hKx := hxs x hx
    have hKa := hxs a (List.mem_cons_self ..)
    rcases List.mem_cons.mp hx with rfl | hx
    · exact ⟨x, List.mem_cons_self .., hU.refl x hKx⟩
    · obtain ⟨y, hy, hxy⟩ := ih (fun z hz => hxs z (List.mem_cons_of_mem a hz)) hx
      have hKy := hxs y (List.mem_cons_of_mem a (mem_of_mem_distinct hy))
      cases hay : a == y with
      | false =>
        refine ⟨y, List.mem_cons_of_mem a (List.mem_filter.mpr ⟨hy, ?_⟩), hxy⟩
        rw [hay]
        rfl
      | true =>
        refine ⟨a, List.mem_cons_self .., ?_⟩
        exact hU.trans x y a hKx hKy hKa hxy (hU.symm a y hKa hKy hay)

/-- The definitions that a type extends and that have not been found yet. -/
def newDefinitions (U : Universe τ) (found : List τ) (t : τ) : List τ :=
  distinct ((U.directDefinitions t).filter fun s => !found.contains s)

theorem supertypesFrom_cons : U.supertypesFrom (fuel + 1) found (t :: pending) =
    U.supertypesFrom fuel (found ++ U.newDefinitions found t)
      ((U.newDefinitions found t).reverse ++ pending) := rfl

theorem extends_of_mem_newDefinitions (h : d ∈ U.newDefinitions found t) : U.Extends t d :=
  List.mem_of_mem_filter (mem_of_mem_distinct h)

/-- Nothing is found twice. -/
theorem nodup_found_append (hself : ∀ d, U.Extends t d → (d == d) = true) (h : found.Nodup) :
    (found ++ U.newDefinitions found t).Nodup := by
  refine List.nodup_append.mpr ⟨h, nodup_distinct_of_self fun d hd => ?_, ?_⟩
  · exact hself d (List.mem_of_mem_filter hd)
  · rintro d hd _ hnew rfl
    have hnot := (List.mem_filter.mp (mem_of_mem_distinct hnew)).2
    have hself' := hself d (extends_of_mem_newDefinitions hnew)
    exact not_mem_of_contains_eq_false hself' ((Bool.not_eq_true' _).mp hnot) hd

theorem mem_newDefinitions [LawfulBEq τ] :
    d ∈ U.newDefinitions found t ↔ U.Extends t d ∧ d ∉ found := by
  unfold newDefinitions
  rw [mem_distinct, List.mem_filter, Bool.not_eq_true', ← Bool.not_eq_true,
    List.contains_iff_mem]
  exact Iff.rfl

/-- Everything that is collected is above a pending type. -/
theorem above_of_mem_supertypesFrom (h : U.supertypesFrom fuel found pending = some ds) {s : τ}
    (hs : s ∈ ds) : s ∈ found ∨ ∃ t ∈ pending, TransGen U.Extends t s := by
  induction fuel generalizing found pending with
  | zero =>
    cases pending with
    | nil =>
      cases h
      exact .inl hs
    | cons t pending => cases h
  | succ fuel ih =>
    cases pending with
    | nil =>
      cases h
      exact .inl hs
    | cons t pending =>
      rw [supertypesFrom_cons] at h
      have hext : ∀ d ∈ U.newDefinitions found t, U.Extends t d :=
        fun _ => extends_of_mem_newDefinitions
      have ht : t ∈ t :: pending := List.mem_cons_self ..
      rcases ih h with hf | ⟨u, hu, hus⟩
      · rcases List.mem_append.mp hf with hf | hf
        · exact .inl hf
        · exact .inr ⟨t, ht, .single (hext s hf)⟩
      · rcases List.mem_append.mp hu with hu | hu
        · exact .inr ⟨t, ht, .head (hext u (List.mem_reverse.mp hu)) hus⟩
        · exact .inr ⟨u, List.mem_cons_of_mem t hu, hus⟩

/-- A list holds all definitions that a type extends. -/
def Expanded (U : Universe τ) (ds : List τ) (t : τ) : Prop :=
  ∀ d, U.Extends t d → ∃ s ∈ ds, (d == s) = true

/-- The worklist keeps what was found, and whatever it finds or was given is expanded in the
end. -/
theorem expanded_supertypesFrom (hU : U.Coherent K) (hS : U.Rising K S)
    (hpending : ∀ t ∈ pending, S t) (h : U.supertypesFrom fuel found pending = some ds) :
    (∀ s ∈ found, s ∈ ds) ∧ (∀ t ∈ pending, U.Expanded ds t) ∧
      ∀ s ∈ ds, s ∈ found ∨ U.Expanded ds s := by
  induction fuel generalizing found pending with
  | zero =>
    cases pending with
    | nil =>
      cases h
      exact ⟨fun _ hs => hs, fun t ht => (List.not_mem_nil ht).elim, fun _ hs => .inl hs⟩
    | cons t pending => cases h
  | succ fuel ih =>
    cases pending with
    | nil =>
      cases h
      exact ⟨fun _ hs => hs, fun t ht => (List.not_mem_nil ht).elim, fun _ hs => .inl hs⟩
    | cons t pending =>
      rw [supertypesFrom_cons, newDefinitions] at h
      generalize hnew : (U.directDefinitions t).filter (fun s => !found.contains s) = new at h
      have ht := hpending t (List.mem_cons_self ..)
      have hnewS : ∀ s ∈ new, S s := fun s hs =>
        hS.step t ht s (List.mem_of_mem_filter (hnew ▸ hs))
      obtain ⟨hold, hexpanded, hall⟩ := ih (fun s hs => by
        rcases List.mem_append.mp hs with hs | hs
        · exact hnewS s (mem_of_mem_distinct (List.mem_reverse.mp hs))
        · exact hpending s (List.mem_cons_of_mem t hs)) h
      refine ⟨fun s hs => hold s (List.mem_append_left _ hs), fun s hs => ?_, fun s hs => ?_⟩
      · rcases List.mem_cons.mp hs with rfl | hs
        · intro d hd
          cases hf : found.contains d with
          | true =>
            obtain ⟨s, hs, hds⟩ := List.contains_iff_exists_mem_beq.mp hf
            exact ⟨s, hold s (List.mem_append_left _ hs), hds⟩
          | false =>
            have hmem : d ∈ new := by
              rw [← hnew, List.mem_filter, hf]
              exact ⟨hd, rfl⟩
            obtain ⟨s, hs, hds⟩ :=
              hU.exists_mem_distinct (fun s hs => hS.key s (hnewS s hs)) hmem
            exact ⟨s, hold s (List.mem_append_right _ hs), hds⟩
        · exact hexpanded s (List.mem_append_right _ hs)
      · rcases hall s hs with hf | he
        · rcases List.mem_append.mp hf with hf | hf
          · exact .inl hf
          · exact .inr (hexpanded s (List.mem_append_left _ (List.mem_reverse.mpr hf)))
        · exact .inr he

/-- The worklist collects only what is above the definition of a type. -/
theorem above_of_mem_supertypes (h : U.supertypes t = some ds) {s : τ} (hs : s ∈ ds) :
    TransGen U.Extends (U.definition t) s := by
  rcases above_of_mem_supertypesFrom h hs with hf | ⟨u, hu, hus⟩
  · exact (List.not_mem_nil hf).elim
  · rwa [List.mem_singleton.mp hu] at hus

/-- The worklist collects all that is above the definition of a type. -/
theorem mem_supertypes_of_above (hU : U.Coherent K) (hS : U.Rising K S) (ht : S (U.definition t))
    (h : U.supertypes t = some ds) (hd : TransGen U.Extends (U.definition t) d) :
    ∃ s ∈ ds, (d == s) = true := by
  obtain ⟨_, hexpanded, hall⟩ := expanded_supertypesFrom hU hS
    (fun s hs => by rwa [List.mem_singleton.mp hs]) h
  induction hd with
  | single hd => exact hexpanded _ (List.mem_singleton_self _) _ hd
  | @tail y e _ he ih =>
    obtain ⟨s, hs, hys⟩ := ih
    have hSs := hS.above ht (above_of_mem_supertypes h hs)
    rcases hall s hs with hf | hexp
    · exact (List.not_mem_nil hf).elim
    · exact hexp e ((hU.alike y s (hS.key s hSs) hys).extends he)

end Universe

end TypeProjection
