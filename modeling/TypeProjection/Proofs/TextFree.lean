import Mathlib.Data.List.Forall2
import Mathlib.Data.List.Induction
import TypeProjection.Annotation.Reference

/-!
# Values without texts

A text inside of a value may stand for a type. A value without such texts stays as it is when the
texts of a value are resolved, and it is never equal to one with texts. Where equality of values is
identity, as it is among the alternatives of a sensible union, leaving out repetitions depends on
membership only.
-/

namespace TypeProjection.Annotation.Value

/-- Does no text in the value stand for a type? -/
def isTextFree : Value → Bool
  | .str _ | .forward _ _ _ => false
  | .applied _ _ xs | .native _ xs | .looseCallable xs | .union _ xs => all xs
  | .formed name xs => name == "Literal" || all xs
  | .annotated x _ => x.isTextFree
  | _ => true
where
  all : List Value → Bool
    | [] => true
    | x :: xs => x.isTextFree && all xs

theorem all_eq_true {xs : List Value} : isTextFree.all xs = true ↔ ∀ x ∈ xs, x.isTextFree = true := by
  induction xs with
  | nil => simp [isTextFree.all]
  | cons x xs ih => simp [isTextFree.all, ih]

theorem itemwise_tests {xs ys : List Value} :
    itemwise (same.tests xs) ys = true ↔ List.Forall₂ (fun x y => x.same y = true) xs ys := by
  induction xs generalizing ys with
  | nil => cases ys <;> simp [same.tests, itemwise]
  | cons x xs ih => cases ys <;> simp [same.tests, itemwise, ih]

theorem tests_eq_map (xs : List Value) : same.tests xs = xs.map same := by
  induction xs with
  | nil => rfl
  | cons x xs ih => rw [same.tests, ih, List.map_cons]

/-- Equal lists agree in every question that equal items agree in. -/
theorem all_eq_of_forall₂ {xs ys : List Value}
    (h : List.Forall₂ (fun x y => x.isTextFree = y.isTextFree) xs ys) :
    isTextFree.all xs = isTextFree.all ys := by
  induction h with
  | nil => rfl
  | cons hxy _ ih => rw [isTextFree.all, isTextFree.all, hxy, ih]

theorem mutually_tests {xs ys : List Value} (h : mutually (same.tests xs) ys = true) :
    (∀ x ∈ xs, ∃ y ∈ ys, x.same y = true) ∧ ∀ y ∈ ys, ∃ x ∈ xs, x.same y = true := by
  simpa [mutually, tests_eq_map] using h

theorem isTextFree_of_number {n : Int ⊕ Binary64} {y : Value}
    (h : same.sameAsNumber n y = true) : y.isTextFree = true := by
  cases y <;> first | rfl | cases h

/-- Equal values are both without texts, or both are not. -/
theorem isTextFree_eq_of_same {x y : Value} (h : x.same y = true) :
    x.isTextFree = y.isTextFree := by
  induction hn : sizeOf x using Nat.strongRecOn generalizing x y with
  | ind n ih =>
    subst hn
    have hitem : ∀ {xs : List Value}, sizeOf xs < sizeOf x → ∀ a ∈ xs, ∀ b, a.same b = true →
        a.isTextFree = b.isTextFree := fun hlt a ha b hab =>
      ih _ (Nat.lt_trans (List.sizeOf_lt_of_mem ha) hlt) hab rfl
    have hitems : ∀ {xs ys : List Value}, sizeOf xs < sizeOf x →
        itemwise (same.tests xs) ys = true → isTextFree.all xs = isTextFree.all ys := by
      intro xs ys hlt hxs
      obtain ⟨hlength, hzip⟩ := List.forall₂_iff_zip.mp (itemwise_tests.mp hxs)
      refine all_eq_of_forall₂ (List.forall₂_iff_zip.mpr ⟨hlength, fun {a b} hab => ?_⟩)
      exact hitem hlt a (List.of_mem_zip hab).1 b (hzip hab)
    cases x with
    | applied n c xs =>
      have hlt : sizeOf xs < sizeOf (applied n c xs) := by
        rw [applied.sizeOf_spec]
        omega
      cases y with
      | applied m d ys => exact hitems hlt (Bool.and_eq_true_iff.mp h).2
      | _ => cases h
    | native c xs =>
      have hlt : sizeOf xs < sizeOf (native c xs) := by
        rw [native.sizeOf_spec]
        omega
      cases y with
      | native d ys => exact hitems hlt (Bool.and_eq_true_iff.mp h).2
      | looseCallable ys => exact hitems hlt (Bool.and_eq_true_iff.mp h).2
      | _ => cases h
    | looseCallable xs =>
      have hlt : sizeOf xs < sizeOf (looseCallable xs) := by
        rw [looseCallable.sizeOf_spec]
        omega
      cases y with
      | native d ys => exact hitems hlt (Bool.and_eq_true_iff.mp h).2
      | looseCallable ys => exact hitems hlt h
      | _ => cases h
    | formed n xs =>
      have hlt : sizeOf xs < sizeOf (formed n xs) := by
        rw [formed.sizeOf_spec]
        omega
      cases y with
      | formed m ys =>
        obtain ⟨hnm, hys⟩ := Bool.and_eq_true_iff.mp h
        cases eq_of_beq hnm
        change (n == "Literal" || _) = (n == "Literal" || _)
        cases hn : n == "Literal" with
        | true => rfl
        | false =>
          rw [if_neg (by rw [hn]; exact Bool.false_ne_true)] at hys
          exact hitems hlt hys
      | _ => cases h
    | union p xs =>
      have hlt : sizeOf xs < sizeOf (union p xs) := by
        rw [union.sizeOf_spec]
        omega
      cases y with
      | union q ys =>
        obtain ⟨hxy, hyx⟩ := mutually_tests h
        change isTextFree.all xs = isTextFree.all ys
        rw [Bool.eq_iff_iff, all_eq_true, all_eq_true]
        constructor
        · intro hall b hb
          obtain ⟨a, ha, hab⟩ := hyx b hb
          rw [← hitem hlt a ha b hab]
          exact hall a ha
        · intro hall a ha
          obtain ⟨b, hb, hab⟩ := hxy a ha
          rw [hitem hlt a ha b hab]
          exact hall b hb
      | _ => cases h
    | annotated a notes =>
      have hlt : sizeOf a < sizeOf (annotated a notes) := by
        rw [annotated.sizeOf_spec]
        omega
      cases y with
      | annotated b more =>
        change a.isTextFree = b.isTextFree
        exact ih (sizeOf a) hlt (Bool.and_eq_true_iff.mp h).1 rfl
      | _ => cases h
    | bool b => exact (isTextFree_of_number h).symm
    | int n => exact (isTextFree_of_number h).symm
    | float f => exact (isTextFree_of_number h).symm
    | _ =>
      clear ih hitem hitems
      cases y <;> first | rfl | cases h

/-! Leaving out repetitions, where equality is identity. -/

/-- Equality of the values is identity. -/
def Sharp (xs : List Value) : Prop := ∀ x ∈ xs, ∀ y ∈ xs, x.same y = true ↔ x = y

open Classical in
/-- The values that are new, put in front of others. -/
noncomputable def gather (kept xs : List Value) : List Value :=
  xs.foldl (fun kept x => if x ∈ kept then kept else x :: kept) kept

/-- Two lists are the same list once repetitions have been left out, whatever stands before. -/
def Similar (xs ys : List Value) : Prop := ∀ kept, gather kept xs = gather kept ys

section Gather

variable {kept xs ys zs : List Value} {x y : Value}

theorem gather_append : gather kept (xs ++ ys) = gather (gather kept xs) ys := List.foldl_append

theorem gather_cons_of_mem (h : y ∈ kept) : gather kept (y :: ys) = gather kept ys := by
  unfold gather
  rw [List.foldl_cons, if_pos h]

theorem gather_cons_of_not_mem (h : y ∉ kept) :
    gather kept (y :: ys) = gather (y :: kept) ys := by
  unfold gather
  rw [List.foldl_cons, if_neg h]

theorem mem_gather : x ∈ gather kept xs ↔ x ∈ kept ∨ x ∈ xs := by
  induction xs generalizing kept with
  | nil => simp [gather]
  | cons y ys ih =>
    by_cases hy : y ∈ kept
    · rw [gather_cons_of_mem hy, ih, List.mem_cons]
      constructor
      · exact fun h => h.imp_right .inr
      · rintro (h | rfl | h)
        · exact .inl h
        · exact .inl hy
        · exact .inr h
    · rw [gather_cons_of_not_mem hy, ih, List.mem_cons, List.mem_cons, or_assoc, or_left_comm]

/-- What is there already adds nothing. -/
theorem gather_of_subset (h : ∀ x ∈ xs, x ∈ kept) : gather kept xs = kept := by
  induction xs with
  | nil => rfl
  | cons y ys ih =>
    rw [gather_cons_of_mem (h y (List.mem_cons_self ..))]
    exact ih fun x hx => h x (List.mem_cons_of_mem y hx)

theorem Similar.refl : Similar xs xs := fun _ => rfl

theorem Similar.symm (h : Similar xs ys) : Similar ys xs := fun kept => (h kept).symm

theorem Similar.trans (h : Similar xs ys) (h' : Similar ys zs) : Similar xs zs :=
  fun kept => (h kept).trans (h' kept)

theorem Similar.append {xs' ys' : List Value} (h : Similar xs ys) (h' : Similar xs' ys') :
    Similar (xs ++ xs') (ys ++ ys') := by
  intro kept
  rw [gather_append, gather_append, h, h']

theorem Similar.mem_iff (h : Similar xs ys) : x ∈ xs ↔ x ∈ ys := by
  have hx : x ∈ gather [] xs ↔ x ∈ [] ∨ x ∈ xs := mem_gather
  rw [h [], mem_gather] at hx
  simpa using hx.symm

theorem Sharp.mono (h : Sharp xs) (hs : ∀ y ∈ ys, y ∈ xs) : Sharp ys :=
  fun x hx y hy => h x (hs x hx) y (hs y hy)

theorem Sharp.of_similar (h : Sharp xs) (hs : Similar ys xs) : Sharp ys :=
  h.mono fun _ => hs.mem_iff.mp

/-- Repetitions may be left out before each item is replaced by a list. -/
theorem similar_flatMap_gather (f : Value → List Value) :
    Similar ((gather [] xs).reverse.flatMap f) (xs.flatMap f) := by
  induction xs using List.reverseRecOn with
  | nil => exact .refl
  | append_singleton xs x ih =>
    rw [gather_append, List.flatMap_append]
    by_cases hx : x ∈ gather [] xs
    · intro kept
      rw [gather_cons_of_mem hx]
      change gather kept ((gather [] xs).reverse.flatMap f) = _
      rw [ih, gather_append]
      refine (gather_of_subset fun y hy => mem_gather.mpr (.inr ?_)).symm
      rw [List.flatMap_singleton] at hy
      exact List.mem_flatMap.mpr ⟨x, (mem_gather.mp hx).resolve_left List.not_mem_nil, hy⟩
    · rw [gather_cons_of_not_mem hx]
      change Similar ((x :: gather [] xs).reverse.flatMap f) _
      rw [List.reverse_cons, List.flatMap_append]
      exact ih.append .refl

theorem distinctValues_eq_gather (h : Sharp xs) : distinctValues xs = (gather [] xs).reverse := by
  have hstep : ∀ {kept ys : List Value}, (∀ y ∈ kept ++ ys, y ∈ xs) →
      ys.foldl (fun kept x => if kept.any (fun y => y.same x) then kept else x :: kept) kept =
        gather kept ys := by
    intro kept ys
    induction ys generalizing kept with
    | nil => exact fun _ => rfl
    | cons y ys ih =>
      intro hmem
      have hany : kept.any (fun z => z.same y) = true ↔ y ∈ kept := by
        rw [List.any_eq_true]
        have hy : y ∈ xs := hmem y (by simp)
        constructor
        · rintro ⟨z, hz, hzy⟩
          exact (h z (hmem z (List.mem_append_left _ hz)) y hy).mp hzy ▸ hz
        · exact fun hk => ⟨y, hk, (h y hy y hy).mpr rfl⟩
      rw [List.foldl_cons]
      by_cases hk : y ∈ kept
      · rw [if_pos (hany.mpr hk), gather_cons_of_mem hk]
        exact ih fun z hz => hmem z (by simp only [List.mem_append, List.mem_cons] at hz ⊢; tauto)
      · rw [if_neg fun h => hk (hany.mp h), gather_cons_of_not_mem hk]
        exact ih fun z hz => hmem z (by simp only [List.mem_append, List.mem_cons] at hz ⊢; tauto)
  unfold distinctValues
  rw [hstep fun y hy => by simpa using hy]

/-- A list without its repetitions is as good as the list itself, also under a function. -/
theorem similar_flatMap_distinctValues (h : Sharp xs) (f : Value → List Value) :
    Similar ((distinctValues xs).flatMap f) (xs.flatMap f) := by
  rw [distinctValues_eq_gather h]
  exact similar_flatMap_gather f

theorem similar_distinctValues (h : Sharp xs) : Similar (distinctValues xs) xs := by
  have hsingle := similar_flatMap_distinctValues h fun x => [x]
  rwa [List.flatMap_singleton', List.flatMap_singleton'] at hsingle

theorem distinctValues_eq_of_similar (hx : Sharp ys) (h : Similar xs ys) :
    distinctValues xs = distinctValues ys := by
  rw [distinctValues_eq_gather hx, distinctValues_eq_gather (hx.of_similar h), h]

theorem mem_distinctValues (h : Sharp xs) : x ∈ distinctValues xs ↔ x ∈ xs := by
  rw [distinctValues_eq_gather h, List.mem_reverse, mem_gather]
  simp

end Gather

end TypeProjection.Annotation.Value
