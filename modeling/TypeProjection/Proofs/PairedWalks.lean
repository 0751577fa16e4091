import Mathlib.Data.List.Forall2
import Mathlib.Data.Option.Basic
import TypeProjection.Walk

/-!
# Two walks side by side

Two walks over one universe are paired if, from related registries, both end or neither does, and
their results and registries are related again. What the universe decides by itself is the same in
both. So a walk is paired with itself along any relation that its single steps keep.
-/

namespace TypeProjection.Walk

variable {τ α α' β β' γ : Type} {S : Registry τ → Registry τ → Prop} {Q : α → α' → Prop}
  {P : β → β' → Prop} {m : Walk τ α} {m' : Walk τ α'}

/-- From related registries both walks end or neither does, and what they give is related. -/
def Paired (S : Registry τ → Registry τ → Prop) (Q : α → α' → Prop) (m : Walk τ α)
    (m' : Walk τ α') : Prop :=
  ∀ r r', S r r' → Option.Rel (fun x y => Q x.1 y.1 ∧ S x.2 y.2) (m r) (m' r')

theorem paired_pure {a : α} {a' : α'} (h : Q a a') : Paired S Q (pure a) (pure a') :=
  fun _ _ hr => .some ⟨h, hr⟩

theorem Paired.bind {f : α → Walk τ β} {f' : α' → Walk τ β'} (h : Paired S Q m m')
    (hf : ∀ a a', Q a a' → Paired S P (f a) (f' a')) : Paired S P (m >>= f) (m' >>= f') := by
  intro r r' hr
  have hm := h r r' hr
  change Option.Rel _ ((m r).bind fun x => f x.1 x.2) ((m' r').bind fun x => f' x.1 x.2)
  generalize m r = x at hm ⊢
  generalize m' r' = y at hm ⊢
  cases hm with
  | none => exact .none
  | some h => exact hf _ _ h.1 _ _ h.2

theorem Paired.mono {Q' : α → α' → Prop} (h : Paired S Q m m') (hQ : ∀ a a', Q a a' → Q' a a') :
    Paired S Q' m m' := by
  intro r r' hr
  have hm := h r r' hr
  generalize m r = x at hm ⊢
  generalize m' r' = y at hm ⊢
  cases hm with
  | none => exact .none
  | some h => exact .some ⟨hQ _ _ h.1, h.2⟩

theorem paired_get : Paired S S (get : Walk τ (Registry τ)) get := fun _ _ hr => .some ⟨hr, hr⟩

theorem paired_modify {f f' : Registry τ → Registry τ} (h : ∀ r r', S r r' → S (f r) (f' r')) :
    Paired S (fun _ _ => True) (modify f : Walk τ Unit) (modify f') :=
  fun r r' hr => .some ⟨trivial, h r r' hr⟩

/-- What does not come from the registry is the same in both walks. -/
theorem paired_lift (x : Option α) :
    Paired S Eq (StateT.lift x : Walk τ α) (StateT.lift x : Walk τ α) := by
  intro r r' hr
  cases x with
  | none => exact .none
  | some a => exact .some ⟨rfl, hr⟩

theorem paired_ite {c : Prop} [Decidable c] {n : Walk τ α} {n' : Walk τ α'}
    (h : c → Paired S Q m m') (h' : ¬ c → Paired S Q n n') :
    Paired S Q (if c then m else n) (if c then m' else n') := by
  split
  · exact h ‹_›
  · exact h' ‹_›

theorem paired_mapM {xs : List γ} {f : γ → Walk τ β} {f' : γ → Walk τ β'}
    (h : ∀ x ∈ xs, Paired S P (f x) (f' x)) :
    Paired S (fun bs bs' => List.Forall₂ P bs bs' ∧ bs.length = xs.length) (xs.mapM f)
      (xs.mapM f') := by
  induction xs with
  | nil => exact paired_pure ⟨.nil, rfl⟩
  | cons x xs ih =>
    rw [List.mapM_cons, List.mapM_cons]
    refine (h x (List.mem_cons_self ..)).bind fun _ _ hb => ?_
    refine (ih fun y hy => h y (List.mem_cons_of_mem _ hy)).bind fun _ _ hbs => ?_
    exact paired_pure ⟨.cons hb hbs.1, congrArg (· + 1) hbs.2⟩

theorem paired_forM {xs : List γ} {f f' : γ → Walk τ Unit}
    (h : ∀ x ∈ xs, Paired S (fun _ _ => True) (f x) (f' x)) :
    Paired S (fun _ _ => True) (xs.forM f) (xs.forM f') := by
  induction xs with
  | nil => exact paired_pure trivial
  | cons x xs ih =>
    exact (h x (List.mem_cons_self ..)).bind fun _ _ _ =>
      ih fun y hy => h y (List.mem_cons_of_mem _ hy)

variable [BEq τ]

/-- What is implied is the same in both walks. -/
theorem paired_implied (U : Universe τ) (candidates : List τ) (base : Option τ) :
    Paired S Eq (implied U candidates base) (implied U candidates base) := by
  have habove : ∀ t ∈ candidates, Paired S Eq (StateT.lift (U.supertypes t) : Walk τ (List τ))
      (StateT.lift (U.supertypes t)) := fun t _ => paired_lift _
  have hrest : ∀ above : List τ, Paired S Eq
      (do
        let fromCandidates ← candidates.mapM fun t =>
          (StateT.lift (U.supertypes t) : Walk τ (List τ))
        return above ++ fromCandidates.flatten)
      (do
        let fromCandidates ← candidates.mapM fun t =>
          (StateT.lift (U.supertypes t) : Walk τ (List τ))
        return above ++ fromCandidates.flatten) :=
    fun above => (paired_mapM habove).bind fun xs ys h => by
      obtain rfl : xs = ys := List.forall₂_eq_eq_eq ▸ h.1
      exact paired_pure rfl
  unfold implied
  cases base with
  | none => exact hrest []
  | some b =>
    refine (paired_lift (U.supertypes b)).bind fun above _ h => ?_
    subst h
    exact hrest (U.definition b :: above)

end TypeProjection.Walk
