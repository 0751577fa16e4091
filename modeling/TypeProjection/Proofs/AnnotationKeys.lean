import TypeProjection.Annotation.Types
import TypeProjection.Proofs.Coherence

/-!
# The keys of annotated types

Values compare by what they mean, so their equality is none of the laws that identity has: numbers
of different kinds are equal, and a union equals every order of itself. Among the values under
which declarations are filed it is better behaved. They are classes without arguments, and two of
them are equal exactly if they differ in the generic name that was used at most. So the universe of
a world is coherent.
-/

namespace TypeProjection.Annotation

/-- Equal classes have one name; only the two base classes of protocols are equal without being
one. -/
theorem ClassRef.equals_iff {c d : ClassRef} :
    c.equals d = true ↔ c = d ∨
      (c = World.laterProtocolRoot ∧ d = World.protocolRoot) ∨
      (c = World.protocolRoot ∧ d = World.laterProtocolRoot) := by
  unfold ClassRef.equals World.laterProtocolRoot World.protocolRoot
  split
  · simp
  · simp
  · rename_i hlater hfirst
    rw [beq_iff_eq]
    constructor
    · exact .inl
    · rintro (h | ⟨rfl, rfl⟩ | ⟨rfl, rfl⟩)
      · exact h
      · exact (hlater rfl rfl).elim
      · exact (hfirst rfl rfl).elim

namespace World

variable {w : World}

theorem nameOf_of_equals {c d : ClassRef} (h : c.equals d = true) : w.nameOf c = w.nameOf d := by
  rcases ClassRef.equals_iff.mp h with rfl | ⟨rfl, rfl⟩ | ⟨rfl, rfl⟩
  · rfl
  · rfl
  · rfl

/-- A class of a module that is no part of the machinery. -/
def Declarable (w : World) (c : ClassRef) : Prop := machineryModules.contains (w.moduleOf c) = false

theorem Declarable.eq_of_equals {c d : ClassRef} (hd : w.Declarable d) (h : c.equals d = true) :
    c = d := by
  rcases ClassRef.equals_iff.mp h with rfl | ⟨_, rfl⟩ | ⟨_, rfl⟩
  · rfl
  · exact Bool.noConfusion (show true = false from hd)
  · exact Bool.noConfusion (show true = false from hd)

/-- A class without arguments, as a declaration can be filed under it. -/
inductive Bare (w : World) : Value → Prop
  | cls {c : ClassRef} : w.Declarable c → Bare w (.cls c)
  | applied {name : String} {c : ClassRef} : w.Declarable c → Bare w (.applied name c [])
  | native {c : ClassRef} : w.Declarable c → Bare w (.native c [])
  | generic {name : String} : Bare w (.alias name)

end World

namespace Value

/-- A value without the generic name that was used for its class. -/
def unnamed : Value → Value
  | .applied _ c arguments => .applied "" c arguments
  | v => v

/-! Which values can be equal to a class, in each way of writing one. -/

theorem same_cls {x : Value} {d : ClassRef} (h : x.same (.cls d) = true) :
    ∃ c, x = .cls c ∧ c.equals d = true := by
  cases x with
  | cls c => exact ⟨c, rfl, h⟩
  | _ => cases h

theorem same_alias {x : Value} {t : String} (h : x.same (.alias t) = true) : x = .alias t := by
  cases x with
  | «alias» s => exact congrArg Value.alias (eq_of_beq h)
  | _ => cases h

theorem same_applied {x : Value} {n : String} {d : ClassRef} {ys : List Value}
    (h : x.same (.applied n d ys) = true) :
    ∃ m c xs, x = .applied m c xs ∧ c.equals d = true ∧ itemwise (same.tests xs) ys = true := by
  cases x with
  | applied m c xs => exact ⟨m, c, xs, rfl, Bool.and_eq_true_iff.mp h⟩
  | _ => cases h

theorem same_native {x : Value} {d : ClassRef} {ys : List Value}
    (h : x.same (.native d ys) = true) :
    (∃ c xs, x = .native c xs ∧ c.equals d = true ∧ itemwise (same.tests xs) ys = true) ∨
      ∃ xs, x = .looseCallable xs ∧ d.equals callableRoot = true := by
  cases x with
  | native c xs => exact .inl ⟨c, xs, rfl, Bool.and_eq_true_iff.mp h⟩
  | looseCallable xs => exact .inr ⟨xs, rfl, (Bool.and_eq_true_iff.mp h).1⟩
  | _ => cases h

theorem same_looseCallable {x : Value} {ys : List Value}
    (h : x.same (.looseCallable ys) = true) :
    (∃ c xs, x = .native c xs ∧ c.equals callableRoot = true) ∨ ∃ xs, x = .looseCallable xs := by
  cases x with
  | native c xs => exact .inl ⟨c, xs, rfl, (Bool.and_eq_true_iff.mp h).1⟩
  | looseCallable xs => exact .inr ⟨xs, rfl⟩
  | _ => cases h

@[simp] theorem class?_cls (c : ClassRef) : (Value.cls c).class? = some c := by
  unfold class? origin?
  dsimp only
  split
  · rename_i hsome
    split at hsome
    · cases hsome
      rfl
    · cases hsome
  · rename_i hsome
    split at hsome <;> cases hsome
  · rfl

theorem eq_nil_of_tests {xs : List Value} (h : itemwise (same.tests xs) [] = true) : xs = [] := by
  cases xs with
  | nil => rfl
  | cons x xs => exact nomatch h

end Value

namespace World

variable {w : World}

/-- Two keys are equal exactly if they are one class, written in one way up to generic names. -/
theorem sameKey_iff {x k : Value} (hk : w.Bare k) :
    Value.sameKey x k = true ↔ x.unnamed = k.unnamed := by
  constructor
  · intro h
    have hs : x.same k = true := (Bool.and_eq_true_iff.mp (Bool.and_eq_true_iff.mp h).1).1
    cases hk with
    | cls hd =>
      obtain ⟨c, rfl, hcd⟩ := Value.same_cls hs
      rw [hd.eq_of_equals hcd]
    | applied hd =>
      obtain ⟨m, c, xs, rfl, hcd, hxs⟩ := Value.same_applied hs
      rw [hd.eq_of_equals hcd, Value.eq_nil_of_tests hxs]
      rfl
    | native hd =>
      rcases Value.same_native hs with ⟨c, xs, rfl, hcd, hxs⟩ | ⟨xs, rfl, hd'⟩
      · rw [hd.eq_of_equals hcd, Value.eq_nil_of_tests hxs]
      · rcases ClassRef.equals_iff.mp hd' with rfl | ⟨_, h'⟩ | ⟨_, h'⟩
        · exact Bool.noConfusion (show true = false from hd)
        · exact absurd h' (by decide)
        · exact absurd h' (by decide)
    | generic => rw [Value.same_alias hs]
  · intro h
    cases hk with
    | cls hd =>
      cases x <;> cases h
      simp [Value.sameKey, Value.same, Value.isHashable, ClassRef.equals_iff]
    | applied hd =>
      cases x <;> cases h
      simp [Value.sameKey, Value.same, Value.same.tests, Value.itemwise, Value.isHashable,
        Value.isHashable.allHashable, ClassRef.equals_iff]
    | native hd =>
      cases x <;> cases h
      simp [Value.sameKey, Value.same, Value.same.tests, Value.itemwise, Value.isHashable,
        Value.isHashable.allHashable, ClassRef.equals_iff]
    | generic =>
      cases x <;> cases h
      simp [Value.sameKey, Value.same, Value.isHashable]

theorem declarable_of_isStructuralType {v : Value} {c : ClassRef} (hc : v.class? = some c)
    (hv : w.isStructuralType v = true) : w.Declarable c := by
  unfold isStructuralType at hv
  rw [hc] at hv
  simpa [Declarable] using (Bool.and_eq_true_iff.mp hv).2

theorem Declarable.not_isFlatCallable {c : ClassRef} (hc : w.Declarable c) (xs : List Value) :
    isFlatCallable c xs = false := by
  unfold isFlatCallable
  cases hcc : c == callableRoot with
  | false => rfl
  | true =>
    cases eq_of_beq hcc
    exact Bool.noConfusion (show true = false from hc)

/-- A structure is filed under a class without arguments. -/
theorem bare_normal {t : Value} (ht : w.isStructuralType t = true) :
    w.Bare (w.types.normal t) := by
  obtain ⟨c, hc⟩ : ∃ c, t.class? = some c := by
    cases hc : t.class? with
    | none =>
      unfold isStructuralType at ht
      rw [hc] at ht
      cases ht
    | some c => exact ⟨c, rfl⟩
  have hd := declarable_of_isStructuralType hc ht
  change w.Bare (if t.isConstructed then definitionOf t else t)
  cases hcon : t.isConstructed with
  | true =>
    simp only [↓reduceIte, definitionOf, hcon, hc, Option.map_some, Option.getD_some]
    exact .cls hd
  | false =>
    rw [if_neg Bool.false_ne_true]
    cases t with
    | cls c' =>
      rw [Value.class?_cls] at hc
      cases hc
      exact .cls hd
    | applied name origin xs =>
      cases hc
      have hxs : xs.isEmpty = true := by
        simpa [Value.isConstructed, Value.origin?, Value.arguments,
          hd.not_isFlatCallable] using hcon
      cases List.isEmpty_iff.mp hxs
      exact .applied hd
    | native origin xs =>
      cases hc
      have hxs : xs.isEmpty = true := by
        simpa [Value.isConstructed, Value.origin?, Value.arguments,
          hd.not_isFlatCallable] using hcon
      cases List.isEmpty_iff.mp hxs
      exact .native hd
    | looseCallable xs =>
      cases hc
      exact Bool.noConfusion (show true = false from hd)
    | union piped xs =>
      cases piped with
      | false => cases hc
      | true =>
        cases hc
        exact Bool.noConfusion (show true = false from hd)
    | «alias» name => exact .generic
    | _ => cases hc

/-- A generic name shows in the display of a type only. -/
theorem alike_unnamed (w : World) (v : Value) : w.types.Alike v v.unnamed := by
  cases v <;> exact ⟨rfl, rfl, rfl, rfl, rfl, rfl, rfl, rfl⟩

theorem shortName_cls (c : ClassRef) : w.shortName (.cls c) = w.nameOf c := by
  unfold shortName
  rw [Value.class?_cls]

/-- Equal enumerations have one name. Unions are left out: their class is no enumeration. -/
theorem shortName_of_sameKey {x t : Value} (ht : w.isEnumType t = true)
    (h : Value.sameKey x t = true) : w.shortName x = w.shortName t := by
  have hs : x.same t = true := (Bool.and_eq_true_iff.mp (Bool.and_eq_true_iff.mp h).1).1
  cases t with
  | cls d =>
    obtain ⟨c, rfl, hcd⟩ := Value.same_cls hs
    rw [shortName_cls, shortName_cls, nameOf_of_equals hcd]
  | applied n d ys =>
    obtain ⟨m, c, xs, rfl, hcd, _⟩ := Value.same_applied hs
    exact nameOf_of_equals hcd
  | native d ys =>
    rcases Value.same_native hs with ⟨c, xs, rfl, hcd, _⟩ | ⟨xs, rfl, hd⟩
    · exact nameOf_of_equals hcd
    · exact (nameOf_of_equals hd).symm
  | looseCallable ys =>
    rcases Value.same_looseCallable hs with ⟨c, xs, rfl, hc⟩ | ⟨xs, rfl⟩
    · exact nameOf_of_equals hc
    · rfl
  | union piped ys =>
    cases piped with
    | false => cases ht
    | true => exact Bool.noConfusion (show false = true from ht)
  | «alias» name => rw [Value.same_alias hs]
  | _ => cases ht

/-- The universe of a world is coherent. -/
theorem types_coherent (w : World) : w.types.Coherent w.Bare where
  structural _ ht := bare_normal ht
  refl _ hk := (sameKey_iff hk).mpr rfl
  symm k l hk hl h := (sameKey_iff hk).mpr ((sameKey_iff hl).mp h).symm
  trans j k l _ hk hl h h' :=
    (sameKey_iff hl).mpr (((sameKey_iff hk).mp h).trans ((sameKey_iff hl).mp h'))
  alike x k hk h := by
    have hx := w.alike_unnamed x
    rw [(sameKey_iff hk).mp h] at hx
    exact hx.trans (w.alike_unnamed k).symm
  enumName _ _ ht h := shortName_of_sameKey ht h

end World

end TypeProjection.Annotation
