import TypeProjection.Annotation.Descriptor
import TypeProjection.Proofs.AnnotationKeys
import TypeProjection.Proofs.Renaming

/-!
# Equality of values

Equality of values is symmetric and transitive. One layer of it compares heads, and the parts by the
equality itself: item by item, or each with some item of the other side. So both facts follow by
induction on what is inside of a value. A number is compared by the quotient that it stands for. Not
every value equals itself: what is not a number does not, and some objects are equal by identity
alone.
-/

namespace TypeProjection

/-! ### Numbers -/

namespace Literal

/-- The quotient that a finite number stands for. -/
def quotient? : Int ⊕ Binary64 → Option (Int × Nat)
  | .inl n => some (n, 1)
  | .inr x => x.toQuotient?

variable {m n k : Int ⊕ Binary64}

theorem den_pos {q : Int × Nat} (h : quotient? n = some q) : 0 < q.2 := by
  cases n with
  | inl n =>
    cases h
    exact Nat.one_pos
  | inr x =>
    cases x with
    | finite negative mantissa exponent =>
      simp only [quotient?, Binary64.toQuotient?, Option.some.injEq] at h
      subst h
      dsimp only
      split
      · exact Nat.pow_pos (by decide)
      · exact Nat.one_pos
    | infinite negative => cases h
    | nan => cases h

/-- An integer equals a floating point number that is the same quotient. -/
theorem toInt?_eq_some {x : Binary64} {i : Int} :
    x.toInt? = some i ↔ ∃ q, x.toQuotient? = some q ∧ i * q.2 = q.1 := by
  rw [Binary64.toInt?]
  cases hx : x.toQuotient? with
  | none => simp
  | some q =>
    have hpos : 0 < q.2 := den_pos (n := .inr x) hx
    have hne : (q.2 : Int) ≠ 0 := by omega
    simp only [beq_iff_eq, Option.some.injEq, exists_eq_left']
    constructor
    · intro h
      split at h
      · next hmod =>
        cases h
        exact Int.ediv_mul_cancel (Int.dvd_of_emod_eq_zero hmod)
      · cases h
    · intro h
      rw [← h, Int.mul_emod_left, if_pos rfl, Int.mul_ediv_cancel _ hne]

/-- Two finite numbers are equal if their quotients are, and two infinite ones if they have the same
sign. -/
theorem sameNumber_iff : sameNumber m n = true ↔
    (∃ s, m = .inr (.infinite s) ∧ n = .inr (.infinite s)) ∨
    ∃ p q, quotient? m = some p ∧ quotient? n = some q ∧ p.1 * q.2 = q.1 * p.2 := by
  cases m with
  | inl i =>
    cases n with
    | inl j => simp [sameNumber, quotient?]
    | inr y => simp [sameNumber, quotient?, toInt?_eq_some]
  | inr x =>
    cases n with
    | inl j =>
      simp only [sameNumber, quotient?, beq_iff_eq, toInt?_eq_some]
      constructor
      · rintro ⟨q, hq, h⟩
        exact .inr ⟨q, _, hq, rfl, by simpa using h.symm⟩
      · rintro (⟨s, _, h⟩ | ⟨q, p, hq, hp, h⟩)
        · cases h
        · cases hp
          exact ⟨q, hq, by simpa using h.symm⟩
    | inr y =>
      cases x with
      | infinite s =>
        cases y with
        | infinite s' =>
          simp only [sameNumber, Binary64.equals, beq_iff_eq, quotient?, Binary64.toQuotient?]
          constructor
          · rintro rfl
            exact .inl ⟨s, rfl, rfl⟩
          · rintro (⟨_, hs, hs'⟩ | ⟨_, _, h, _⟩)
            · cases hs
              cases hs'
              rfl
            · cases h
        | _ => simp [sameNumber, quotient?, Binary64.equals, Binary64.toQuotient?]
      | _ =>
        cases y <;> simp [sameNumber, quotient?, Binary64.equals, Binary64.toQuotient?]

theorem sameNumber_symm (h : sameNumber m n = true) : sameNumber n m = true := by
  rw [sameNumber_iff] at h ⊢
  rcases h with ⟨s, hm, hn⟩ | ⟨p, q, hp, hq, hpq⟩
  · exact .inl ⟨s, hn, hm⟩
  · exact .inr ⟨q, p, hq, hp, hpq.symm⟩

theorem sameNumber_trans (h : sameNumber m n = true) (h' : sameNumber n k = true) :
    sameNumber m k = true := by
  rw [sameNumber_iff] at h h' ⊢
  rcases h with ⟨s, rfl, rfl⟩ | ⟨p, q, hp, hq, hpq⟩
  · rcases h' with ⟨s', hs, hk⟩ | ⟨p, q, hp, _⟩
    · cases hs
      exact .inl ⟨s, rfl, hk⟩
    · cases hp
  · rcases h' with ⟨s', rfl, _⟩ | ⟨q', r, hq', hr, hqr⟩
    · cases hq
    · cases hq.symm.trans hq'
      have hpos : (0 : Int) < q.2 := by exact_mod_cast den_pos hq
      refine .inr ⟨p, r, hp, hr, Int.eq_of_mul_eq_mul_right (Int.ne_of_gt hpos) ?_⟩
      calc p.1 * r.2 * q.2 = p.1 * q.2 * r.2 := Int.mul_right_comm ..
        _ = q.1 * p.2 * r.2 := by rw [hpq]
        _ = q.1 * r.2 * p.2 := Int.mul_right_comm ..
        _ = r.1 * q.2 * p.2 := by rw [hqr]
        _ = r.1 * p.2 * q.2 := Int.mul_right_comm ..

end Literal

/-! ### Lists taken as sets -/

section Sets

variable {α : Type} {R : α → α → Prop} {xs ys zs : List α}

/-- Every item of either list is related to some item of the other. -/
structure Mutual (R : α → α → Prop) (xs ys : List α) : Prop where
  left : ∀ x ∈ xs, ∃ y ∈ ys, R x y
  right : ∀ y ∈ ys, ∃ x ∈ xs, R x y

theorem Mutual.symm (h : Mutual R xs ys) (hR : ∀ x ∈ xs, ∀ y, R x y → R y x) :
    Mutual R ys xs where
  left y hy := by
    obtain ⟨x, hx, hxy⟩ := h.right y hy
    exact ⟨x, hx, hR x hx y hxy⟩
  right x hx := by
    obtain ⟨y, hy, hxy⟩ := h.left x hx
    exact ⟨y, hy, hR x hx y hxy⟩

theorem Mutual.trans (h : Mutual R xs ys) (h' : Mutual R ys zs)
    (hR : ∀ x ∈ xs, ∀ y z, R x y → R y z → R x z) : Mutual R xs zs where
  left x hx := by
    obtain ⟨y, hy, hxy⟩ := h.left x hx
    obtain ⟨z, hz, hyz⟩ := h'.left y hy
    exact ⟨z, hz, hR x hx y z hxy hyz⟩
  right z hz := by
    obtain ⟨y, hy, hyz⟩ := h'.right z hz
    obtain ⟨x, hx, hxy⟩ := h.right y hy
    exact ⟨x, hx, hR x hx y z hxy hyz⟩

theorem forall₂_symm (h : List.Forall₂ R xs ys) (hR : ∀ x ∈ xs, ∀ y, R x y → R y x) :
    List.Forall₂ R ys xs := by
  induction h with
  | nil => exact .nil
  | cons hxy _ ih =>
    obtain ⟨hx, hxs⟩ := List.forall_mem_cons.mp hR
    exact .cons (hx _ hxy) (ih hxs)

theorem forall₂_trans (h : List.Forall₂ R xs ys) (h' : List.Forall₂ R ys zs)
    (hR : ∀ x ∈ xs, ∀ y z, R x y → R y z → R x z) : List.Forall₂ R xs zs := by
  induction h generalizing zs with
  | nil =>
    cases h'
    exact .nil
  | cons hxy _ ih =>
    obtain ⟨hx, hxs⟩ := List.forall_mem_cons.mp hR
    cases h' with
    | cons hyz h' => exact .cons (hx _ _ hxy hyz) (ih h' hxs)

end Sets

/-! ### One layer of equality -/

namespace Annotation

theorem ClassRef.equals_symm {c d : ClassRef} (h : c.equals d = true) : d.equals c = true := by
  rw [equals_iff] at h ⊢
  tauto

theorem ClassRef.equals_trans {c d e : ClassRef} (h : c.equals d = true) (h' : d.equals e = true) :
    c.equals e = true := by
  rw [equals_iff] at h h' ⊢
  rcases h with rfl | ⟨rfl, rfl⟩ | ⟨rfl, rfl⟩
  · exact h'
  · rcases h' with rfl | ⟨h, _⟩ | ⟨_, rfl⟩
    · exact .inr (.inl ⟨rfl, rfl⟩)
    · exact absurd h (by decide)
    · exact .inl rfl
  · rcases h' with rfl | ⟨_, rfl⟩ | ⟨h, _⟩
    · exact .inr (.inr ⟨rfl, rfl⟩)
    · exact .inl rfl
    · exact absurd h (by decide)

namespace Value

/-- Values that nothing equals but themselves. -/
def isAtom : Value → Bool
  | .none | .ellipsis | .str _ | .bytes _ | .typeVar _ | .paramSpec _ | .newType _ | .form _
  | .alias _ | .member _ _ | .function _ _ | .module _ => true
  | _ => false

/-- The class and the arguments of a value whose arguments are kept as they were written. -/
def native? : Value → Option (ClassRef × List Value)
  | .native c xs => some (c, xs)
  | .looseCallable xs => some (callableRoot, xs)
  | _ => Option.none

/-- The entries of a mapping as a relation of pairs. -/
def EntryRel (R : Value → Value → Prop) (p q : Value × Value) : Prop := R p.1 q.1 ∧ R p.2 q.2

/-- Two values are alike if their heads are and their parts are related. -/
inductive Alike (R : Value → Value → Prop) : Value → Value → Prop where
  | atom {x : Value} (hx : x.isAtom = true) : Alike R x x
  | number {x y : Value} {m n : Int ⊕ Binary64} (hx : x.number? = some m) (hy : y.number? = some n)
      (hmn : Literal.sameNumber m n = true) : Alike R x y
  | list {xs ys : List Value} (h : List.Forall₂ R xs ys) : Alike R (.list xs) (.list ys)
  | tuple {xs ys : List Value} (h : List.Forall₂ R xs ys) : Alike R (.tuple xs) (.tuple ys)
  | set {xs ys : List Value} (h : Mutual R xs ys) : Alike R (.set xs) (.set ys)
  | dict {ks vs js ws : List Value} (h : Mutual (EntryRel R) (ks.zip vs) (js.zip ws)) :
      Alike R (.dict ks vs) (.dict js ws)
  | cls {c d : ClassRef} (hc : c.equals d = true) : Alike R (.cls c) (.cls d)
  | applied {m n : String} {c d : ClassRef} {xs ys : List Value} (hc : c.equals d = true)
      (h : List.Forall₂ R xs ys) : Alike R (.applied m c xs) (.applied n d ys)
  | native {x y : Value} {c d : ClassRef} {xs ys : List Value} (hx : x.native? = some (c, xs))
      (hy : y.native? = some (d, ys)) (hc : c.equals d = true) (h : List.Forall₂ R xs ys) :
      Alike R x y
  | formed {s : String} {xs ys : List Value} (hs : s ≠ "Literal") (h : List.Forall₂ R xs ys) :
      Alike R (.formed s xs) (.formed s ys)
  | literal {xs ys : List Value}
      (h : Mutual (fun x y => R x y ∧ x.kindWord = y.kindWord) xs ys) :
      Alike R (.formed "Literal" xs) (.formed "Literal" ys)
  | union {p q : Bool} {xs ys : List Value} (h : Mutual R xs ys) :
      Alike R (.union p xs) (.union q ys)
  | annotated {x y : Value} {notes more : List Value} (hx : R x y)
      (h : List.Forall₂ R notes more) : Alike R (.annotated x notes) (.annotated y more)
  | forward {s m : String} {a b : Bool} : Alike R (.forward s m a) (.forward s m b)

theorem mutually_iff {α β : Type} {xs : List α} {ys : List β} {p : α → β → Bool} :
    mutually (xs.map p) ys = true ↔
      (∀ x ∈ xs, ∃ y ∈ ys, p x y = true) ∧ ∀ y ∈ ys, ∃ x ∈ xs, p x y = true := by
  simp [mutually]

theorem mutual_same {xs ys : List Value} : mutually (same.tests xs) ys = true ↔
    Mutual (fun x y => x.same y = true) xs ys := by
  rw [tests_eq_map, mutually_iff]
  exact ⟨fun h => ⟨h.1, h.2⟩, fun h => ⟨h.left, h.right⟩⟩

theorem native?_eq_some {x : Value} {c : ClassRef} {xs : List Value} :
    x.native? = some (c, xs) ↔
      x = .native c xs ∨ (x = .looseCallable xs ∧ c = callableRoot) := by
  cases x <;> simp [native?, eq_comm, and_comm]

theorem alike_number {R : Value → Value → Prop} {x y : Value} {m : Int ⊕ Binary64}
    (hx : x.number? = some m) (h : same.sameAsNumber m y = true) : Alike R x y := by
  unfold same.sameAsNumber at h
  split at h
  · next hy => exact .number hx hy h
  · cases h

theorem alike_of_same {x y : Value} (h : x.same y = true) :
    Alike (fun a b => a.same b = true) x y := by
  cases x with
  | bool b | int n | float f => exact alike_number rfl h
  | list xs =>
    cases y with
    | list ys => exact .list (itemwise_tests.mp h)
    | _ => cases h
  | tuple xs =>
    cases y with
    | tuple ys => exact .tuple (itemwise_tests.mp h)
    | _ => cases h
  | set xs =>
    cases y with
    | set ys => exact .set (mutual_same.mp h)
    | _ => cases h
  | dict ks vs =>
    cases y with
    | dict js ws =>
      have hpairs : mutually (entryTests (same.tests ks) (same.tests vs)) (js.zip ws) = true := h
      rw [entryTests_eq_map, mutually_iff] at hpairs
      simp only [Bool.and_eq_true] at hpairs
      exact .dict ⟨hpairs.1, hpairs.2⟩
    | _ => cases h
  | cls c =>
    cases y with
    | cls d => exact .cls h
    | _ => cases h
  | applied n c xs =>
    cases y with
    | applied m d ys =>
      obtain ⟨hc, hxs⟩ := Bool.and_eq_true_iff.mp h
      exact .applied hc (itemwise_tests.mp hxs)
    | _ => cases h
  | native c xs =>
    cases y with
    | native d ys | looseCallable ys =>
      obtain ⟨hc, hxs⟩ := Bool.and_eq_true_iff.mp h
      exact .native rfl rfl hc (itemwise_tests.mp hxs)
    | _ => cases h
  | looseCallable xs =>
    cases y with
    | native d ys =>
      obtain ⟨hc, hxs⟩ := Bool.and_eq_true_iff.mp h
      exact .native rfl rfl (ClassRef.equals_symm hc) (itemwise_tests.mp hxs)
    | looseCallable ys => exact .native rfl rfl (by decide) (itemwise_tests.mp h)
    | _ => cases h
  | formed s xs =>
    cases y with
    | formed t ys =>
      obtain ⟨hs, hxs⟩ := Bool.and_eq_true_iff.mp h
      cases eq_of_beq hs
      by_cases hliteral : s = "Literal"
      · subst hliteral
        rw [if_pos (beq_self_eq_true _), kindTests_eq_map, mutually_iff] at hxs
        simp only [Bool.and_eq_true, beq_iff_eq] at hxs
        exact .literal ⟨hxs.1, hxs.2⟩
      · rw [if_neg (by simpa using hliteral)] at hxs
        exact .formed hliteral (itemwise_tests.mp hxs)
    | _ => cases h
  | union p xs =>
    cases y with
    | union q ys => exact .union (mutual_same.mp h)
    | _ => cases h
  | annotated a notes =>
    cases y with
    | annotated b more =>
      obtain ⟨ha, hnotes⟩ := Bool.and_eq_true_iff.mp h
      exact .annotated ha (itemwise_tests.mp hnotes)
    | _ => cases h
  | forward s m a =>
    cases y with
    | forward t n b =>
      obtain ⟨hs, hm⟩ := Bool.and_eq_true_iff.mp h
      cases eq_of_beq hs
      cases eq_of_beq hm
      exact .forward
    | _ => cases h
  | initVar a | other s => cases h
  | member c s =>
    cases y with
    | member d t =>
      obtain ⟨hc, hs⟩ := Bool.and_eq_true_iff.mp h
      cases eq_of_beq hc
      cases eq_of_beq hs
      exact .atom rfl
    | _ => cases h
  | function m s =>
    cases y with
    | function n t =>
      obtain ⟨hm, hs⟩ := Bool.and_eq_true_iff.mp h
      cases eq_of_beq hm
      cases eq_of_beq hs
      exact .atom rfl
    | _ => cases h
  | none | ellipsis =>
    cases y <;> first | exact .atom rfl | cases h
  | _ =>
    cases y <;> first
      | (cases eq_of_beq h
         exact .atom rfl)
      | cases h

theorem same_of_alike {x y : Value} (h : Alike (fun a b => a.same b = true) x y) :
    x.same y = true := by
  cases h with
  | atom hx => cases x <;> first | (simp [same]; done) | cases hx
  | @number _ _ m n hx hy hmn =>
    have hnumber : same.sameAsNumber m y = true := by
      rw [same.sameAsNumber, hy]
      exact hmn
    cases x <;> first | cases hx; exact hnumber | cases hx
  | list h => exact itemwise_tests.mpr h
  | tuple h => exact itemwise_tests.mpr h
  | set h => exact mutual_same.mpr h
  | dict h =>
    rw [same, entryTests_eq_map, mutually_iff]
    simp only [Bool.and_eq_true]
    exact ⟨h.left, h.right⟩
  | cls hc => exact hc
  | applied hc h => exact Bool.and_eq_true_iff.mpr ⟨hc, itemwise_tests.mpr h⟩
  | native hx hy hc h =>
    rcases native?_eq_some.mp hx with rfl | ⟨rfl, rfl⟩
    · rcases native?_eq_some.mp hy with rfl | ⟨rfl, rfl⟩
      · exact Bool.and_eq_true_iff.mpr ⟨hc, itemwise_tests.mpr h⟩
      · exact Bool.and_eq_true_iff.mpr ⟨hc, itemwise_tests.mpr h⟩
    · rcases native?_eq_some.mp hy with rfl | ⟨rfl, rfl⟩
      · exact Bool.and_eq_true_iff.mpr ⟨ClassRef.equals_symm hc, itemwise_tests.mpr h⟩
      · exact itemwise_tests.mpr h
  | formed hs h =>
    rw [same, if_neg (by simpa using hs), beq_self_eq_true]
    exact itemwise_tests.mpr h
  | literal h =>
    rw [same, kindTests_eq_map, if_pos (beq_self_eq_true _), beq_self_eq_true, Bool.true_and,
      mutually_iff]
    simp only [Bool.and_eq_true, beq_iff_eq]
    exact ⟨h.left, h.right⟩
  | union h => exact mutual_same.mpr h
  | annotated hx h => exact Bool.and_eq_true_iff.mpr ⟨hx, itemwise_tests.mpr h⟩
  | forward => simp [same]

/-- Values are equal if they are alike and their parts are equal. -/
theorem same_iff {x y : Value} : x.same y = true ↔ Alike (fun a b => a.same b = true) x y :=
  ⟨alike_of_same, same_of_alike⟩

/-! ### Symmetry and transitivity -/

variable {R : Value → Value → Prop} {x y z : Value}

theorem children_of_native {c : ClassRef} {xs : List Value} (hx : x.native? = some (c, xs)) :
    x.children = xs := by
  rcases native?_eq_some.mp hx with rfl | ⟨rfl, _⟩
  · rfl
  · rfl

theorem mem_children_of_mem_zip {ks vs : List Value} {p : Value × Value} (hp : p ∈ ks.zip vs) :
    p.1 ∈ (Value.dict ks vs).children ∧ p.2 ∈ (Value.dict ks vs).children :=
  ⟨List.mem_append_left _ (List.of_mem_zip hp).1, List.mem_append_right _ (List.of_mem_zip hp).2⟩

theorem Alike.symm (h : Alike R x y) (hR : ∀ a ∈ x.children, ∀ b, R a b → R b a) :
    Alike R y x := by
  cases h with
  | atom hx => exact .atom hx
  | number hx hy hmn => exact .number hy hx (Literal.sameNumber_symm hmn)
  | list h => exact .list (forall₂_symm h hR)
  | tuple h => exact .tuple (forall₂_symm h hR)
  | set h => exact .set (h.symm hR)
  | dict h =>
    refine .dict (h.symm fun p hp q hpq => ?_)
    obtain ⟨hk, hv⟩ := mem_children_of_mem_zip hp
    exact ⟨hR _ hk _ hpq.1, hR _ hv _ hpq.2⟩
  | cls hc => exact .cls (ClassRef.equals_symm hc)
  | applied hc h => exact .applied (ClassRef.equals_symm hc) (forall₂_symm h hR)
  | native hx hy hc h =>
    rw [children_of_native hx] at hR
    exact .native hy hx (ClassRef.equals_symm hc) (forall₂_symm h hR)
  | formed hs h => exact .formed hs (forall₂_symm h hR)
  | literal h => exact .literal (h.symm fun a ha b hab => ⟨hR a ha b hab.1, hab.2.symm⟩)
  | union h => exact .union (h.symm hR)
  | annotated hx h =>
    obtain ⟨ha, hnotes⟩ := List.forall_mem_cons.mp hR
    exact .annotated (ha _ hx) (forall₂_symm h hnotes)
  | forward => exact .forward

/-- Equality of values is symmetric. -/
theorem same_symm (h : x.same y = true) : y.same x = true := by
  induction x using children_induction generalizing y with
  | _ x ih => exact same_iff.mpr ((same_iff.mp h).symm fun a ha b hab => ih a ha hab)

theorem number?_of_isAtom (hx : x.isAtom = true) : x.number? = Option.none := by
  cases x <;> first | rfl | cases hx

theorem Alike.trans (h : Alike R x y) (h' : Alike R y z)
    (hR : ∀ a ∈ x.children, ∀ b c, R a b → R b c → R a c) : Alike R x z := by
  cases h with
  | atom hx => exact h'
  | number hx hy hmn =>
    cases h' with
    | atom hy' =>
      rw [number?_of_isAtom hy'] at hy
      cases hy
    | number hy' hz hnk =>
      cases hy.symm.trans hy'
      exact .number hx hz (Literal.sameNumber_trans hmn hnk)
    | native hy' =>
      rcases native?_eq_some.mp hy' with rfl | ⟨rfl, _⟩
      · cases hy
      · cases hy
    | _ => cases hy
  | list h =>
    cases h' with
    | list h' => exact .list (forall₂_trans h h' hR)
    | atom hy | number hy | native hy => cases hy
  | tuple h =>
    cases h' with
    | tuple h' => exact .tuple (forall₂_trans h h' hR)
    | atom hy | number hy | native hy => cases hy
  | set h =>
    cases h' with
    | set h' => exact .set (h.trans h' hR)
    | atom hy | number hy | native hy => cases hy
  | dict h =>
    cases h' with
    | dict h' =>
      refine .dict (h.trans h' fun p hp q r hpq hqr => ?_)
      obtain ⟨hk, hv⟩ := mem_children_of_mem_zip hp
      exact ⟨hR _ hk _ _ hpq.1 hqr.1, hR _ hv _ _ hpq.2 hqr.2⟩
    | atom hy | number hy | native hy => cases hy
  | cls hc =>
    cases h' with
    | cls hd => exact .cls (ClassRef.equals_trans hc hd)
    | atom hy | number hy | native hy => cases hy
  | applied hc h =>
    cases h' with
    | applied hd h' => exact .applied (ClassRef.equals_trans hc hd) (forall₂_trans h h' hR)
    | atom hy | number hy | native hy => cases hy
  | native hx hy hc h =>
    rw [children_of_native hx] at hR
    cases h' with
    | native hy' hz hd h' =>
      cases hy.symm.trans hy'
      exact .native hx hz (ClassRef.equals_trans hc hd) (forall₂_trans h h' hR)
    | atom hy' | number hy' =>
      rcases native?_eq_some.mp hy with rfl | ⟨rfl, _⟩
      · cases hy'
      · cases hy'
    | _ => cases hy
  | formed hs h =>
    cases h' with
    | formed _ h' => exact .formed hs (forall₂_trans h h' hR)
    | literal => exact absurd rfl hs
    | atom hy | number hy | native hy => cases hy
  | literal h =>
    cases h' with
    | formed hs => exact absurd rfl hs
    | literal h' =>
      exact .literal (h.trans h' fun a ha b c hab hbc =>
        ⟨hR a ha b c hab.1 hbc.1, hab.2.trans hbc.2⟩)
    | atom hy | number hy | native hy => cases hy
  | union h =>
    cases h' with
    | union h' => exact .union (h.trans h' hR)
    | atom hy | number hy | native hy => cases hy
  | annotated hx h =>
    obtain ⟨ha, hnotes⟩ := List.forall_mem_cons.mp hR
    cases h' with
    | annotated hy h' => exact .annotated (ha _ _ hx hy) (forall₂_trans h h' hnotes)
    | atom hy | number hy | native hy => cases hy
  | forward =>
    cases h' with
    | forward => exact .forward
    | atom hy | number hy | native hy => cases hy

/-- Equality of values is transitive. -/
theorem same_trans (h : x.same y = true) (h' : y.same z = true) : x.same z = true := by
  induction x using children_induction generalizing y z with
  | _ x ih =>
    exact same_iff.mpr ((same_iff.mp h).trans (same_iff.mp h') fun a ha b c hab hbc =>
      ih a ha hab hbc)

end Value

end Annotation

end TypeProjection
