import TypeProjection.Proofs.KeyedLists
import TypeProjection.Proofs.RenamedClasses

/-!
# Runs under other serials

A module that is run in one world can be run in another one, in which other things have been made
before. The second run follows the first one step by step: it makes the same things under other
serials, changes nothing else, and fails where the first one does, with the same words. `Carries`
states this for a step, and there is one lemma for each kind of step.

In the second world the module may have names already. They stay where no definition binds them
again, so the second run may find a name that the first one does not; it follows a run that does not
fail for want of such a name, unless a name hides one that every module has.
-/

namespace TypeProjection.Definition

open Annotation World
open Value (AllHomely allHomely_cons allHomely_nil)

/-- How a run goes on in another world: under which renaming, with texts of which modules, with
which names that the module had before, and where its submodules and the modules of both worlds are
found. -/
structure Track where
  serials : Renaming
  homes : String → Prop
  module : String
  earlier : List (String × Value)
  folders : Option (List (List String))
  entries : List (String × Nat)
  entries' : List (String × Nat)
  home : homes module
  visible : ∀ e ∈ earlier, builtinName? e.1 = none

/-- The failures for want of a name that the module had before. -/
def Track.Misses (T : Track) (f : Fault) : Prop := ∃ e ∈ T.earlier, f = .unknownName e.1

variable {α β γ δ : Type} {T : Track} {w w' w₁ w₁' w₂ : World}
  {names names' : List (String × Value)}

/-- A module that had no names before misses none. -/
theorem Track.spared (h : T.earlier = []) (r : Except Fault α) : Spared T.Misses r := by
  rintro f - ⟨e, he, -⟩
  rw [h] at he
  exact List.not_mem_nil he

/-! ### Names of modules -/

theorem loaded?_withNames_none {module m : String} (h : w.loaded? m = none) :
    (w.withNames module names).loaded? m = none := by
  unfold World.withNames World.changeModule
  cases w.current.lookup module with
  | none => exact h
  | some i =>
    change (w.current.lookup m).bind (fun j => (w.modules.modify i _)[j]?) = none
    cases hj : w.current.lookup m with
    | none => rfl
    | some j =>
      have hnone : w.modules[j]? = none := by rw [← h, World.loaded?, hj]; rfl
      change (w.modules.modify i _)[j]? = none
      rw [Array.getElem?_modify, hnone]
      exact ite_self none

theorem loaded?_withNames (module : String) : (w.withNames module names).loaded? module =
    (w.loaded? module).map fun m => { m with names := names } := by
  unfold World.withNames World.changeModule World.loaded?
  cases hi : w.current.lookup module with
  | none => simp [hi]
  | some i => simp [hi, Array.getElem?_modify]

theorem namesOf_withNames {module : String} {m : LoadedModule} (h : w.loaded? module = some m) :
    (w.withNames module names).namesOf module = names := by
  rw [World.namesOf, loaded?_withNames, h]
  rfl

theorem current_withNames (w : World) (module : String) (names : List (String × Value)) :
    (w.withNames module names).current = w.current := by
  unfold World.withNames World.changeModule
  cases w.current.lookup module <;> rfl

namespace Track

/-! ### What both worlds have -/

/-- The names of the module in both worlds. -/
structure Overlays (T : Track) (names names' : List (String × Value)) : Prop where
  lookup : ∀ n, names'.lookup n =
    ((names.lookup n).map (Value.rename T.serials)).or (T.earlier.lookup n)
  order : keys names' = distinct (keys T.earlier ++ keys names)
  nodup : (keys names).Nodup
  homely : HomelyNames T.homes names

/-- The modules of a world are found where they should be. -/
def Finds (T : Track) (entries : List (String × Nat)) (w : World) : Prop :=
  w.current = entries ∧ (w.loaded? T.module).map LoadedModule.folders = some T.folders

/-- The second run has come as far as the first one. -/
structure Follows (T : Track) (w w' : World) : Prop where
  renames : w.Renames T.serials T.homes w'
  names : T.Overlays (w.namesOf T.module) (w'.namesOf T.module)
  left : T.Finds T.entries w
  right : T.Finds T.entries' w'

/-- What the second world had is as it was, but for the names of the module. -/
structure Spares (T : Track) (w w₁ : World) : Prop where
  typeVars : ∀ i, (∀ j, T.serials.typeVar j ≠ i) → w₁.typeVars[i]? = w.typeVars[i]?
  current : w₁.current = w.current
  size : w₁.modules.size = w.modules.size
  others : ∀ i, w.current.lookup T.module ≠ some i → w₁.modules[i]? = w.modules[i]?
  own : ∀ (i : Nat) x, w.modules[i]? = some x →
    ∃ names, w₁.modules[i]? = some { x with names := names }

theorem Spares.refl (w : World) : T.Spares w w :=
  ⟨fun _ _ => rfl, rfl, rfl, fun _ _ => rfl, fun _ x h => ⟨x.names, h⟩⟩

theorem Spares.trans (h : T.Spares w w₁) (h' : T.Spares w₁ w₂) : T.Spares w w₂ where
  typeVars i hi := (h'.typeVars i hi).trans (h.typeVars i hi)
  current := h'.current.trans h.current
  size := h'.size.trans h.size
  others i hi := (h'.others i (by rw [h.current]; exact hi)).trans (h.others i hi)
  own i x hx := by
    obtain ⟨names, hx⟩ := h.own i x hx
    obtain ⟨names', hx'⟩ := h'.own i _ hx
    exact ⟨names', hx'⟩

/-- A step that makes things, but no type variables. -/
theorem Spares.of_same (htypeVars : w₁.typeVars = w.typeVars) (hmodules : w₁.modules = w.modules)
    (hcurrent : w₁.current = w.current) : T.Spares w w₁ where
  typeVars _ _ := by rw [htypeVars]
  current := hcurrent
  size := by rw [hmodules]
  others _ _ := by rw [hmodules]
  own _ x hx := ⟨x.names, by rw [hmodules]; exact hx⟩

/-! ### Steps that belong together -/

/-- The second step follows the first one, and what the first one gives has a property. Where the
module had names before, this is said of a first step that does not miss one of them. -/
def Carries (T : Track) (f : α → β) (P : α → Prop) (w w' : World) (m : Run α) (m' : Run β) : Prop :=
  T.Follows w w' → Spared T.Misses (m.run.run w).1 →
    (m'.run.run w').1 = (m.run.run w).1.map f ∧
      T.Follows (m.run.run w).2 (m'.run.run w').2 ∧ T.Spares w' (m'.run.run w').2 ∧
      Gives (m.run.run w).1 P

section Rules

variable {f : α → β} {g : γ → δ} {P : α → Prop} {Q : γ → Prop} {m : Run α} {m' : Run β}

theorem carries_of_follows (h : T.Follows w w' → T.Carries f P w w' m m') :
    T.Carries f P w w' m m' := fun hw => h hw hw

theorem carries_pure {a : α} {b : β} (ha : P a) (hb : b = f a) :
    T.Carries f P w w' (pure a) (pure b) := by
  subst hb
  exact fun h _ => ⟨rfl, h, .refl w', gives_ok.mpr ha⟩

theorem carries_failing {e : Fault} : T.Carries f P w w' (failing e) (failing e) :=
  fun h _ => ⟨rfl, h, .refl w', gives_error⟩

/-- Steps that change nothing. -/
theorem carries_still {r : Except Fault α} (hm : T.Follows w w' → m.run.run w = (r, w))
    (hm' : T.Follows w w' → m'.run.run w' = (r.map f, w')) (hr : Gives r P) :
    T.Carries f P w w' m m' := by
  intro hw _
  rw [hm hw, hm' hw]
  exact ⟨rfl, hw, .refl w', hr⟩

/-- A pure result. -/
theorem carries_lifted {x : Except Fault α} {x' : Except Fault β}
    (h : Spared T.Misses x → Sends f P x x') :
    T.Carries f P w w' (lifted x) (lifted x') := by
  have hrun : ∀ {γ : Type} (y : Except Fault γ) (w : World), (lifted y).run.run w = (y, w) := by
    intro γ y w
    cases y <;> rfl
  intro hw hok
  rw [hrun] at hok
  rw [hrun, hrun]
  obtain ⟨rfl, hgives⟩ := h hok
  exact ⟨rfl, hw, .refl w', hgives⟩

theorem Carries.bind {k : α → Run γ} {k' : β → Run δ} (hm : T.Carries f P w w' m m')
    (hk : ∀ a w₁ w₁', P a → T.Carries g Q w₁ w₁' (k a) (k' (f a))) :
    T.Carries g Q w w' (m >>= k) (m' >>= k') := by
  intro hw hok
  rw [run_bind] at hok
  rw [run_bind, run_bind]
  rcases hrun : m.run.run w with ⟨e | a, w₁⟩
  · have hspared : Spared T.Misses (m.run.run w).1 := by
      rw [hrun] at hok ⊢
      exact fun f hf => hok f (congrArg Except.error (Except.error.inj hf))
    obtain ⟨hresult, hfollows, hspares, -⟩ := hm hw hspared
    rw [hrun] at hresult hfollows
    rcases hrun' : m'.run.run w' with ⟨r, w₁'⟩
    rw [hrun'] at hresult hfollows hspares
    cases (hresult : r = .error e)
    exact ⟨rfl, hfollows, hspares, gives_error⟩
  · rw [hrun] at hok
    have hspared : Spared T.Misses (m.run.run w).1 := by
      rw [hrun]
      exact nofun
    obtain ⟨hresult, hfollows, hspares, hgives⟩ := hm hw hspared
    rw [hrun] at hresult hfollows hgives
    rcases hrun' : m'.run.run w' with ⟨r, w₁'⟩
    rw [hrun'] at hresult hfollows hspares
    cases (hresult : r = .ok (f a))
    obtain ⟨hresult, hfollows, hspares', hgives⟩ := hk a w₁ w₁' (hgives a rfl) hfollows hok
    exact ⟨hresult, hfollows, hspares.trans hspares', hgives⟩

theorem Carries.mono {P' : α → Prop} (hm : T.Carries f P w w' m m') (h : ∀ a, P a → P' a) :
    T.Carries f P' w w' m m' := by
  intro hw hok
  obtain ⟨hresult, hfollows, hspares, hgives⟩ := hm hw hok
  exact ⟨hresult, hfollows, hspares, fun a ha => h a (hgives a ha)⟩

/-- A step that begins with a look at the world. -/
theorem carries_look {k : World → Run α} {k' : World → Run β}
    (h : T.Carries f P w w' (k w) (k' w')) : T.Carries f P w w' (get >>= k) (get >>= k') := h

/-- A step that begins with a pure result. -/
theorem carries_lifted_bind {x : Except Fault α} {x' : Except Fault β} {k : α → Run γ}
    {k' : β → Run δ} (h : Sends f P x x')
    (hk : ∀ a, P a → T.Carries g Q w w' (k a) (k' (f a))) :
    T.Carries g Q w w' (lifted x >>= k) (lifted x' >>= k') := by
  obtain ⟨rfl, hx⟩ := h
  cases x with
  | error e => exact carries_failing
  | ok a => exact hk a (hx a rfl)

/-- A step that replaces the world and gives a value. -/
theorem carries_set {a : α} {b : β} (ha : P a) (hb : b = f a)
    (h : T.Follows w w' → T.Follows w₁ w₁' ∧ T.Spares w' w₁') :
    T.Carries f P w w' (do set w₁; return a) (do set w₁'; return b) := by
  subst hb
  exact fun hw _ => ⟨rfl, (h hw).1, (h hw).2, gives_ok.mpr ha⟩

theorem carries_modify {k k' : World → World}
    (h : T.Follows w w' → T.Follows (k w) (k' w') ∧ T.Spares w' (k' w')) :
    T.Carries id (fun _ => True) w w' (modify k) (modify k') :=
  fun hw _ => ⟨rfl, (h hw).1, (h hw).2, fun _ _ => trivial⟩

theorem carries_mapM {k : γ → Run α} {k' : γ → Run β} {xs : List γ}
    (h : ∀ x w w', T.Carries f P w w' (k x) (k' x)) :
    T.Carries (List.map f) (fun ys => ∀ y ∈ ys, P y) w w' (xs.mapM k) (xs.mapM k') := by
  induction xs generalizing w w' with
  | nil => exact carries_pure (fun _ hy => (List.not_mem_nil hy).elim) rfl
  | cons x xs ih =>
    rw [List.mapM_cons, List.mapM_cons]
    refine (h x w w').bind fun y _ _ hy => ih.bind fun ys _ _ hys => ?_
    exact carries_pure (List.forall_mem_cons.mpr ⟨hy, hys⟩) rfl

/-- Steps for the items of a list and for what they are sent to. -/
theorem carries_forM {r : γ → δ} {k : γ → Run Unit} {k' : δ → Run Unit} {xs : List γ}
    (h : ∀ x ∈ xs, ∀ w w', T.Carries id (fun _ => True) w w' (k x) (k' (r x))) :
    T.Carries id (fun _ => True) w w' (xs.forM k) ((xs.map r).forM k') := by
  induction xs generalizing w w' with
  | nil => exact carries_pure trivial rfl
  | cons x xs ih =>
    obtain ⟨hx, hxs⟩ := List.forall_mem_cons.mp h
    exact (hx w w').bind fun _ _ _ _ => ih hxs

end Rules

/-! ### Things that are made -/

section Made

/-- Both lists of things get longer by one. -/
theorem push_sent {xs : Array α} {ys : Array β} {r : Nat → Nat} {g : α → β}
    (h : ∀ i, ys[r i]? = xs[i]?.map g) (hnext : ∀ n, r (xs.size + n) = ys.size + n) (x : α) :
    (∀ i, (ys.push (g x))[r i]? = (xs.push x)[i]?.map g) ∧
      ∀ n, r ((xs.push x).size + n) = (ys.push (g x)).size + n := by
  constructor
  · intro i
    rw [Array.getElem?_push, Array.getElem?_push]
    rcases Nat.lt_trichotomy i xs.size with hi | rfl | hi
    · have hx : ys[r i]? = some (g xs[i]) := by rw [h, Array.getElem?_eq_getElem hi, Option.map_some]
      have hlt := (Array.getElem?_eq_some_iff.mp hx).1
      rw [if_neg (Nat.ne_of_lt hlt), if_neg (Nat.ne_of_lt hi), h]
    · have hsize : r xs.size = ys.size := hnext 0
      rw [if_pos hsize, if_pos rfl, Option.map_some]
    · obtain ⟨n, rfl⟩ := Nat.exists_eq_add_of_lt hi
      have hsize : r (xs.size + n + 1) = ys.size + (n + 1) := hnext (n + 1)
      rw [if_neg (by omega), if_neg (by omega), h]
  · intro n
    have hsize : r (xs.size + (n + 1)) = ys.size + (n + 1) := hnext (n + 1)
    rw [Array.size_push, Array.size_push, Nat.add_right_comm, Nat.add_assoc, hsize,
      Nat.add_right_comm, Nat.add_assoc]

variable {ρ : Renaming} {K : String → Prop}

theorem renames_pushClass (h : w.Renames ρ K w') {info : ClassInfo} (hi : info.Homely K) :
    World.Renames ρ K { w with classes := w.classes.push info }
      { w' with classes := w'.classes.push (info.rename ρ) } := by
  obtain ⟨hclasses, hnext⟩ := push_sent h.classes h.nextClass info
  refine { h with classes := hclasses, nextClass := hnext, homelyClasses := fun {i x} hx => ?_ }
  rcases getElem?_push_cases hx with hx | rfl
  · exact h.homelyClasses hx
  · exact hi

theorem renames_pushTypeVar (h : w.Renames ρ K w') {v : TypeVariable} (hv : v.Homely K) :
    World.Renames ρ K { w with typeVars := w.typeVars.push v }
      { w' with typeVars := w'.typeVars.push (v.rename ρ) } := by
  obtain ⟨hvars, hnext⟩ := push_sent h.typeVars h.nextTypeVar v
  refine { h with typeVars := hvars, nextTypeVar := hnext, homelyVars := fun {i x} hx => ?_ }
  rcases getElem?_push_cases hx with hx | rfl
  · exact h.homelyVars hx
  · exact hv

theorem renames_pushParamSpec (h : w.Renames ρ K w') (x : String × String) :
    World.Renames ρ K { w with paramSpecs := w.paramSpecs.push x }
      { w' with paramSpecs := w'.paramSpecs.push x } := by
  have hsame : ∀ i, w'.paramSpecs[ρ.paramSpec i]? = w.paramSpecs[i]?.map id := fun i => by
    rw [h.paramSpecs, Option.map_id, id]
  obtain ⟨hspecs, hnext⟩ := push_sent hsame h.nextParamSpec x
  refine { h with paramSpecs := fun i => ?_, nextParamSpec := hnext }
  have hi := hspecs i
  rwa [Option.map_id] at hi

theorem renames_pushNewType (h : w.Renames ρ K w') {n : NamedType} (hn : n.supertype.Homely K) :
    World.Renames ρ K { w with newTypes := w.newTypes.push n }
      { w' with newTypes := w'.newTypes.push (n.rename ρ) } := by
  obtain ⟨htypes, hnext⟩ := push_sent h.newTypes h.nextNewType n
  refine { h with newTypes := htypes, nextNewType := hnext, homelyTypes := fun {i x} hx => ?_ }
  rcases getElem?_push_cases hx with hx | rfl
  · exact h.homelyTypes hx
  · exact hn

/-- The same change of a type variable that does not touch its types. -/
theorem renames_modifyTypeVar (h : w.Renames ρ K w') (i : Nat) {f : TypeVariable → TypeVariable}
    (hf : ∀ v, (f v).rename ρ = f (v.rename ρ)) (hhomely : ∀ v, v.Homely K → (f v).Homely K) :
    World.Renames ρ K { w with typeVars := w.typeVars.modify i f }
      { w' with typeVars := w'.typeVars.modify (ρ.typeVar i) f } := by
  refine { h with
    typeVars := fun j => ?_
    nextTypeVar := fun n => ?_
    homelyVars := fun {j v} hv => ?_ }
  · simp only [Array.getElem?_modify, ρ.typeVar_inj, h.typeVars]
    split
    · rw [Option.map_map, Option.map_map]
      exact congrArg (fun g => w.typeVars[j]?.map g) (funext fun v => (hf v).symm)
    · rfl
  · rw [Array.size_modify, Array.size_modify]
    exact h.nextTypeVar n
  · change (w.typeVars.modify i f)[j]? = some v at hv
    rw [Array.getElem?_modify] at hv
    split at hv
    · obtain ⟨x, hx, rfl⟩ := Option.map_eq_some_iff.mp hv
      exact hhomely x (h.homelyVars hx)
    · exact h.homelyVars hv

end Made

/-! ### What the module has made so far -/

section Growing

theorem Overlays.eq_renamed (h : T.Overlays names names') (hearlier : T.earlier = []) :
    names' = renamedNames T.serials names := by
  have hkeys : keys (renamedNames T.serials names) = keys names := renamedNames_keys names
  refine eq_of_keys_lookup ?_ (hkeys ▸ h.nodup) fun n => ?_
  · rw [hkeys, h.order, hearlier, keys, List.map_nil, List.nil_append, distinct_of_nodup h.nodup]
  · rw [h.lookup, hearlier, lookup_renamedNames]
    exact Option.or_none ..

/-- A name that is bound in both worlds. -/
theorem Overlays.put (h : T.Overlays names names') {v : Value} (hv : v.Homely T.homes)
    (name : String) :
    T.Overlays (putPair name v names) (putPair name (v.rename T.serials) names') where
  lookup n := by
    rw [lookup_putPair, lookup_putPair, h.lookup]
    by_cases hn : n = name
    · rw [if_pos hn, if_pos hn]
      rfl
    · rw [if_neg hn, if_neg hn]
  order := by
    have hnodup : (keys names').Nodup := h.order ▸ nodup_distinct _
    rw [keys_putPair_eq_distinct hnodup, keys_putPair_eq_distinct h.nodup, h.order,
      distinct_append_left, List.append_assoc]
    exact distinct_append_congr (distinct_of_nodup (nodup_distinct _)).symm
  nodup := by
    rw [keys_putPair_eq_distinct h.nodup]
    exact nodup_distinct _
  homely := forall_putPair h.homely hv

theorem Renames.withNames {ρ : Renaming} {K : String → Prop} (h : w.Renames ρ K w')
    (module : String) (names names' : List (String × Value)) :
    (w.withNames module names).Renames ρ K (w'.withNames module names') := by
  have hstored : ∀ (w : World) (names : List (String × Value)),
      (w.withNames module names).classes = w.classes ∧
      (w.withNames module names).typeVars = w.typeVars ∧
      (w.withNames module names).paramSpecs = w.paramSpecs ∧
      (w.withNames module names).newTypes = w.newTypes := by
    intro w names
    unfold World.withNames World.changeModule
    cases w.current.lookup module <;> exact ⟨rfl, rfl, rfl, rfl⟩
  obtain ⟨hc, hv, hp, ht⟩ := hstored w names
  obtain ⟨hc', hv', hp', ht'⟩ := hstored w' names'
  constructor
  case absent =>
    exact fun m hm => ⟨loaded?_withNames_none (h.absent m hm).1,
      loaded?_withNames_none (h.absent m hm).2⟩
  case blank => exact h.blank
  case known => exact h.known
  all_goals
    simp only [hc, hv, hp, ht, hc', hv', hp', ht']
  · exact h.classes
  · exact h.typeVars
  · exact h.paramSpecs
  · exact h.newTypes
  · exact h.nextClass
  · exact h.nextTypeVar
  · exact h.nextParamSpec
  · exact h.nextNewType
  · exact h.homelyClasses
  · exact h.homelyVars
  · exact h.homelyTypes

theorem spares_withNames (w : World) (names : List (String × Value)) :
    T.Spares w (w.withNames T.module names) := by
  unfold World.withNames World.changeModule
  cases hi : w.current.lookup T.module with
  | none => exact .refl w
  | some i =>
    refine ⟨fun _ _ => rfl, rfl, Array.size_modify, fun j hj => ?_, fun j x hx => ?_⟩
    · have hne : i ≠ j := fun h => hj (h ▸ hi)
      exact (Array.getElem?_modify ..).trans (if_neg hne)
    · change ∃ names, (w.modules.modify i _)[j]? = _
      rw [Array.getElem?_modify, hx]
      split
      · exact ⟨names, rfl⟩
      · exact ⟨x.names, rfl⟩

theorem Finds.loaded {entries : List (String × Nat)} (h : T.Finds entries w) :
    ∃ m, w.loaded? T.module = some m := by
  obtain ⟨m, hm, -⟩ := Option.map_eq_some_iff.mp h.2
  exact ⟨m, hm⟩

theorem Finds.withNames {entries : List (String × Nat)} (h : T.Finds entries w)
    (names : List (String × Value)) : T.Finds entries (w.withNames T.module names) := by
  refine ⟨(current_withNames ..).trans h.1, ?_⟩
  rw [loaded?_withNames, Option.map_map]
  exact h.2

/-- Binding a name keeps the worlds together. -/
theorem Follows.bind (h : T.Follows w w') {v : Value} (hv : v.Homely T.homes) (name : String) :
    T.Follows (w.withNames T.module (putPair name v (w.namesOf T.module)))
      (w'.withNames T.module (putPair name (v.rename T.serials) (w'.namesOf T.module))) where
  renames := Renames.withNames h.renames T.module _ _
  names := by
    obtain ⟨m, hm⟩ := h.left.loaded
    obtain ⟨m', hm'⟩ := h.right.loaded
    rw [namesOf_withNames hm, namesOf_withNames hm']
    exact h.names.put hv name
  left := h.left.withNames _
  right := h.right.withNames _

end Growing

end Track

end TypeProjection.Definition
