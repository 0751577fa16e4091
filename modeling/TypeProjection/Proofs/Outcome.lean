import Mathlib.Data.List.Basic
import TypeProjection.Walk

/-!
# What holds when a walk ends

`Ends strict act r Q` says that `act`, begun at the registry `r`, ends with a result and a
registry of which `Q` holds. A walk that runs out of depth has no end: a strict reading refuses
it, a loose one says nothing about it. Both readings obey the same rules, so one argument can
serve for what a walk does and for the fact that it ends.
-/

namespace TypeProjection.Walk

variable {τ α β : Type} {strict : Bool} {r : Registry τ} {Q Q' : α → Registry τ → Prop}

/-- What holds of the end of a walk. Without an end, only the loose reading holds. -/
def Ends (strict : Bool) (act : Walk τ α) (r : Registry τ) (Q : α → Registry τ → Prop) : Prop :=
  match act r with
  | none => strict = false
  | some (a, r') => Q a r'

theorem ends_loose {act : Walk τ α} :
    Ends false act r Q ↔ ∀ a r', act r = some (a, r') → Q a r' := by
  unfold Ends
  cases h : act r with
  | none => simp
  | some p =>
    obtain ⟨a, r'⟩ := p
    constructor
    · intro hq a' r'' he
      cases he
      exact hq
    · intro hq
      exact hq a r' rfl

theorem ends_strict {act : Walk τ α} :
    Ends true act r Q ↔ ∃ a r', act r = some (a, r') ∧ Q a r' := by
  unfold Ends
  cases h : act r with
  | none => simp
  | some p =>
    obtain ⟨a, r'⟩ := p
    constructor
    · intro hq
      exact ⟨a, r', rfl, hq⟩
    · rintro ⟨a', r'', he, hq⟩
      cases he
      exact hq

theorem Ends.mono {act : Walk τ α} (h : Ends strict act r Q) (hQ : ∀ a r', Q a r' → Q' a r') :
    Ends strict act r Q' := by
  unfold Ends at h ⊢
  cases he : act r with
  | none => rwa [he] at h
  | some p =>
    rw [he] at h
    exact hQ _ _ h

@[simp] theorem ends_pure {a : α} : Ends strict (pure a : Walk τ α) r Q ↔ Q a r := Iff.rfl

@[simp] theorem ends_bind {act : Walk τ α} {f : α → Walk τ β} {Q : β → Registry τ → Prop} :
    Ends strict (act >>= f) r Q ↔ Ends strict act r fun a r' => Ends strict (f a) r' Q := by
  unfold Ends
  change (match (act r).bind fun p => f p.1 p.2 with
    | none => strict = false
    | some (a, r') => Q a r') ↔ _
  cases act r with
  | none => exact Iff.rfl
  | some p => exact Iff.rfl

@[simp] theorem ends_get {Q : Registry τ → Registry τ → Prop} :
    Ends strict (get : Walk τ (Registry τ)) r Q ↔ Q r r := Iff.rfl

@[simp] theorem ends_modify {f : Registry τ → Registry τ} {Q : Unit → Registry τ → Prop} :
    Ends strict (modify f : Walk τ Unit) r Q ↔ Q () (f r) := Iff.rfl

theorem ends_lift {x : Option α} :
    Ends strict (StateT.lift x : Walk τ α) r Q ↔
      match x with
      | none => strict = false
      | some a => Q a r := by
  cases x <;> exact Iff.rfl

@[simp] theorem ends_ite {p : Prop} [Decidable p] {act act' : Walk τ α} :
    Ends strict (if p then act else act') r Q ↔
      if p then Ends strict act r Q else Ends strict act' r Q := by
  split <;> exact Iff.rfl

/-! The small steps of a walk. -/

@[simp] theorem ends_report {e : Event} {Q : Unit → Registry τ → Prop} :
    Ends strict (report e) r Q ↔ Q () (r.report e) := Iff.rfl

@[simp] theorem ends_isSkipped {U : Universe τ} {t : τ} {Q : Bool → Registry τ → Prop} :
    Ends strict (isSkipped U t) r Q ↔ Q (r.options.skips (U.displayName t)) r := Iff.rfl

@[simp] theorem ends_renamed {name : String} {Q : String → Registry τ → Prop} :
    Ends strict (renamed name) r Q ↔ Q (r.options.rename name) r := Iff.rfl

/-- Notes change the events of a registry and nothing else. -/
theorem ends_reportNotes {notes : List String} {Q : Unit → Registry τ → Prop}
    (h : ∀ es, Q () { r with events := es }) : Ends strict (reportNotes notes) r Q := by
  unfold reportNotes
  induction notes generalizing r with
  | nil => exact h r.events
  | cons note notes ih =>
    change Ends strict (report (.unresolved note) >>= fun _ =>
      notes.forM fun n => report (.unresolved n)) r Q
    simp only [ends_bind, ends_report]
    exact ih h

theorem ends_mapM_lift {f : α → Option β} {xs : List α}
    {Q : List β → Registry τ → Prop} :
    Ends strict (xs.mapM fun x => (StateT.lift (f x) : Walk τ β)) r Q ↔
      match xs.mapM f with
      | none => strict = false
      | some ys => Q ys r := by
  induction xs generalizing Q with
  | nil => exact Iff.rfl
  | cons x xs ih =>
    rw [List.mapM_cons, List.mapM_cons]
    simp only [ends_bind, ends_pure]
    rw [ends_lift]
    cases f x with
    | none => exact Iff.rfl
    | some y =>
      dsimp only
      rw [ih]
      cases xs.mapM f with
      | none => exact Iff.rfl
      | some ys => exact Iff.rfl

section Lists

variable {P : Registry τ → Prop} {f : α → Walk τ β}

/-- A property of registries that every item of a list keeps is kept over the list. -/
theorem ends_mapM_keeps {xs : List α} (h : ∀ x ∈ xs, ∀ r, P r → Ends strict (f x) r fun _ => P)
    (hr : P r) : Ends strict (xs.mapM f) r fun _ => P := by
  induction xs generalizing r with
  | nil => simpa using hr
  | cons x xs ih =>
    rw [List.mapM_cons]
    simp only [ends_bind, ends_pure]
    refine (h x (List.mem_cons_self ..) r hr).mono fun _ r' hr' => ?_
    exact ih (fun y hy => h y (List.mem_cons_of_mem x hy)) hr'

end Lists

end TypeProjection.Walk
