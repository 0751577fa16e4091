import Mathlib.Data.Set.Pairwise.List
import TypeProjection.Distinct

/-!
# Lists without repetitions

The distinct elements of a list are elements of it. Where every element equals itself they are all
different; where equal elements are the same, none is missing, and a list without repetitions stays
as it is.
-/

namespace TypeProjection

variable {α : Type} [BEq α] {x : α} {xs : List α}

theorem mem_of_mem_distinct (h : x ∈ distinct xs) : x ∈ xs := by
  induction xs with
  | nil => exact h
  | cons y ys ih =>
    rcases List.mem_cons.mp h with rfl | h
    · exact List.mem_cons_self ..
    · exact List.mem_cons_of_mem y (ih (List.mem_filter.mp h).1)

theorem nodup_distinct_of_self (h : ∀ x ∈ xs, (x == x) = true) : (distinct xs).Nodup := by
  induction xs with
  | nil => exact List.nodup_nil
  | cons y ys ih =>
    obtain ⟨hy, hys⟩ := List.forall_mem_cons.mp h
    unfold distinct
    refine List.nodup_cons.mpr ⟨fun hmem => ?_, (ih hys).filter _⟩
    have hne := (List.mem_filter.mp hmem).2
    rw [hy] at hne
    cases hne

/-- What is not contained in a list is not one of its elements if it equals itself. -/
theorem not_mem_of_contains_eq_false (hx : (x == x) = true) (h : xs.contains x = false) :
    x ∉ xs := by
  intro hmem
  rw [List.contains_eq_any_beq, List.any_eq_false] at h
  exact h x hmem hx

section Lawful

variable [LawfulBEq α]

theorem mem_distinct : x ∈ distinct xs ↔ x ∈ xs := by
  induction xs with
  | nil => exact Iff.rfl
  | cons y ys ih =>
    unfold distinct
    simp only [List.mem_cons, List.mem_filter, ih, Bool.not_eq_true', beq_eq_false_iff_ne, ne_eq]
    constructor
    · rintro (h | ⟨h, _⟩)
      · exact .inl h
      · exact .inr h
    · rintro (h | h)
      · exact .inl h
      · by_cases hxy : x = y
        · exact .inl hxy
        · exact .inr ⟨h, fun he => hxy he.symm⟩

theorem nodup_distinct (xs : List α) : (distinct xs).Nodup :=
  nodup_distinct_of_self fun _ _ => beq_self_eq_true _

theorem distinct_of_nodup (h : xs.Nodup) : distinct xs = xs := by
  induction xs with
  | nil => rfl
  | cons x xs ih =>
    obtain ⟨hx, hxs⟩ := List.nodup_cons.mp h
    rw [distinct, ih hxs, List.filter_eq_self.mpr]
    rintro y hy
    rw [Bool.not_eq_true', beq_eq_false_iff_ne]
    rintro rfl
    exact hx hy

theorem distinct_append (xs ys : List α) :
    distinct (xs ++ ys) = distinct xs ++ (distinct ys).filter fun y => !xs.contains y := by
  induction xs with
  | nil => exact (List.filter_eq_self.mpr fun _ _ => rfl).symm
  | cons x xs ih =>
    rw [List.cons_append, distinct, ih, List.filter_append, List.filter_filter, distinct,
      List.cons_append]
    congr 2
    refine List.filter_congr fun y _ => ?_
    rw [List.contains_cons, Bool.not_or, BEq.comm]

/-- To leave out repetitions at the front first makes no difference. -/
theorem distinct_append_left (xs ys : List α) :
    distinct (distinct xs ++ ys) = distinct (xs ++ ys) := by
  rw [distinct_append, distinct_append, distinct_of_nodup (nodup_distinct xs)]
  congr 1
  refine List.filter_congr fun y _ => ?_
  rw [Bool.eq_iff_iff]
  simp only [Bool.not_eq_true', ← Bool.not_eq_true, List.contains_iff_mem, mem_distinct]

theorem distinct_append_congr {front ys zs : List α} (h : distinct ys = distinct zs) :
    distinct (front ++ ys) = distinct (front ++ zs) := by
  rw [distinct_append, distinct_append, h]

/-- What is at the front already can be left out behind. -/
theorem distinct_append_right {front ys zs : List α} (h : ∀ y ∈ ys, y ∈ front) :
    distinct (front ++ (ys ++ zs)) = distinct (front ++ zs) := by
  have hnone : (distinct ys).filter (fun y => !front.contains y) = [] := by
    refine List.filter_eq_nil_iff.mpr fun y hy => ?_
    simp [h y (mem_of_mem_distinct hy)]
  rw [← List.append_assoc, distinct_append, distinct_append front ys, hnone, List.append_nil,
    distinct_append front zs]
  congr 1
  refine List.filter_congr fun z _ => ?_
  rw [Bool.eq_iff_iff]
  simp only [Bool.not_eq_true', ← Bool.not_eq_true, List.contains_iff_mem, List.mem_append]
  exact ⟨fun hz hfront => hz (.inl hfront), fun hz => Or.rec hz fun hys => hz (h z hys)⟩

/-- Leaving out elements and leaving out repetitions can be exchanged. -/
theorem filter_distinct (p : α → Bool) (xs : List α) :
    (distinct xs).filter p = distinct (xs.filter p) := by
  induction xs with
  | nil => rfl
  | cons x xs ih =>
    rw [distinct, List.filter_cons, List.filter_cons, List.filter_filter]
    split
    · rw [distinct, ← ih, List.filter_filter]
      congr 2
      funext y
      exact Bool.and_comm ..
    · next hx =>
      rw [← ih]
      refine List.filter_congr fun y _ => ?_
      by_cases hxy : x = y
      · subst hxy
        simp [hx]
      · simp [hxy]

/-- Beginnings of a list without repetitions add nothing in front of it. -/
theorem distinct_prefixes {β : Type} {f : β → List α} {ts : List β} {zs : List α} (hzs : zs.Nodup)
    (h : ∀ t ∈ ts, f t <+: zs) : distinct (ts.flatMap f ++ zs) = zs := by
  induction ts with
  | nil => exact distinct_of_nodup hzs
  | cons t ts ih =>
    obtain ⟨⟨rest, rfl⟩, hts⟩ := List.forall_mem_cons.mp h
    have hlater := (ih hts).trans (distinct_of_nodup hzs).symm
    rw [List.flatMap_cons, List.append_assoc, distinct_append_congr hlater,
      distinct_append_right fun _ hy => hy, distinct_of_nodup hzs]

end Lawful

/-! ### Flattened lists -/

section Flattened

variable [LawfulBEq α] {β : Type} {f : α → List β}

/-- Flattened lists have no repetitions if their parts have none and share nothing. -/
theorem nodup_flatMap_distinct :
    ((distinct xs).flatMap f).Nodup ↔ (∀ x ∈ xs, (f x).Nodup) ∧
      ∀ x ∈ xs, ∀ y ∈ xs, x ≠ y → (f x).Disjoint (f y) := by
  have hpairs : (distinct xs).Pairwise (fun x y => (f x).Disjoint (f y)) ↔
      ∀ x ∈ xs, ∀ y ∈ xs, x ≠ y → (f x).Disjoint (f y) := by
    have hsymm : Std.Symm fun x y => (f x).Disjoint (f y) := ⟨fun _ _ h _ hy hx => h hx hy⟩
    rw [← (nodup_distinct xs).pairwise_coe]
    constructor
    · exact fun h x hx y hy => h (mem_distinct.mpr hx) (mem_distinct.mpr hy)
    · exact fun h x hx y hy => h x (mem_distinct.mp hx) y (mem_distinct.mp hy)
  have hparts : (∀ x ∈ distinct xs, (f x).Nodup) ↔ ∀ x ∈ xs, (f x).Nodup := by
    constructor
    · exact fun h x hx => h x (mem_distinct.mpr hx)
    · exact fun h x hx => h x (mem_distinct.mp hx)
  rw [List.nodup_flatMap, hparts]
  exact and_congr_right fun _ => hpairs

variable [BEq β] [LawfulBEq β]

theorem distinct_append_filter {front : List β} (hx : ∀ y ∈ f x, y ∈ front) :
    distinct (front ++ (xs.filter fun y => !(x == y)).flatMap f) =
      distinct (front ++ xs.flatMap f) := by
  induction xs generalizing front with
  | nil => rfl
  | cons y ys ih =>
    rw [List.flatMap_cons]
    by_cases hxy : x = y
    · subst hxy
      rw [List.filter_cons_of_neg (by simp), ih hx, distinct_append_right hx]
    · rw [List.filter_cons_of_pos (by simp [hxy]), List.flatMap_cons, ← List.append_assoc,
        ← List.append_assoc]
      exact ih fun z hz => List.mem_append_left _ (hx z hz)

/-- Repetitions that are left out before flattening are repetitions afterwards. -/
theorem distinct_flatMap_distinct (f : α → List β) (xs : List α) :
    distinct ((distinct xs).flatMap f) = distinct (xs.flatMap f) := by
  suffices h : ∀ front, distinct (front ++ (distinct xs).flatMap f) =
      distinct (front ++ xs.flatMap f) from h []
  intro front
  induction xs generalizing front with
  | nil => rfl
  | cons x xs ih =>
    rw [distinct, List.flatMap_cons, List.flatMap_cons, ← List.append_assoc, ← List.append_assoc,
      distinct_append_filter fun y hy => List.mem_append_right _ hy]
    exact ih _

end Flattened

end TypeProjection
