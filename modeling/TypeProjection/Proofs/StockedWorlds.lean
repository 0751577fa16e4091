import TypeProjection.Proofs.ComposedRenamings
import TypeProjection.Proofs.LoadedFiles
import TypeProjection.Proofs.SoloRuns

/-!
# What modules leave in a world

A module that is run in a world leaves there what it makes alone, under serials of its own: a
stretch of the classes, and one of each other kind of things. The stretches of different modules are
apart, and running one more module adds its stretch at the end and leaves the others as they are. A
module that fails leaves nothing that could be found.
-/

namespace TypeProjection

open Annotation Definition

/-! What has serials. -/

/-- The kinds of things that have serials. -/
inductive Kind where
  | cls
  | typeVar
  | paramSpec
  | newType

/-- How many things of a kind there are. -/
def Annotation.World.count (w : World) : Kind → Nat
  | .cls => w.classes.size
  | .typeVar => w.typeVars.size
  | .paramSpec => w.paramSpecs.size
  | .newType => w.newTypes.size

/-- How many things of a kind there are at a start. -/
def Start.count (b : Start) : Kind → Nat
  | .cls => b.classes
  | .typeVar => b.typeVars
  | .paramSpec => b.paramSpecs
  | .newType => b.newTypes

/-- The serials of a kind. -/
def Annotation.Renaming.on (ρ : Renaming) : Kind → Nat → Nat
  | .cls => ρ.cls
  | .typeVar => ρ.typeVar
  | .paramSpec => ρ.paramSpec
  | .newType => ρ.newType

section Counts

variable {w w' : World} {k : Kind} {b : Start}

@[simp] theorem count_start (hw : w.Closed) : (w.start hw).count k = w.count k := by
  cases k <;> rfl

theorem count_le_of_grown (h : w.Grown w') (k : Kind) : w.count k ≤ w'.count k := by
  have hle : ∀ {α : Type} {xs ys : Array α},
      (∀ {i : Nat} {x}, xs[i]? = some x → ∃ y, ys[i]? = some y) → xs.size ≤ ys.size := by
    intro α xs ys hkept
    by_contra hlt
    exact Nat.lt_irrefl _ (World.lt_of_kept hkept (Nat.lt_of_not_le hlt))
  cases k with
  | cls => exact hle fun hi => ⟨_, h.classes hi⟩
  | typeVar =>
    refine hle fun hi => ?_
    obtain ⟨v, hv, -⟩ := h.typeVars hi
    exact ⟨v, hv⟩
  | paramSpec => exact hle fun hi => ⟨_, h.paramSpecs hi⟩
  | newType => exact hle fun hi => ⟨_, h.newTypes hi⟩

theorem Start.initial_le (b : Start) (k : Kind) : World.initial.count k ≤ b.count k := by
  cases k with
  | typeVar => exact b.library
  | _ => exact Nat.zero_le _

/-- The serials of what a module makes itself. -/
theorem Start.on_add (b : Start) (k : Kind) (n : Nat) :
    b.serials.on k (World.initial.count k + n) = b.count k + n := by
  cases k with
  | typeVar => exact typeVar_add
  | _ => exact congrArg (_ + ·) (Nat.zero_add n)

theorem Renaming.on_library (ρ : Renaming) {i : Nat} (hi : i < World.initial.count k) :
    ρ.on k i = i := by
  cases k with
  | typeVar => exact ρ.library i hi
  | _ => exact (Nat.not_lt_zero i hi).elim

end Counts

/-! Stretches. -/

/-- A module that has been run, with what it held, and the serials that what it made begins with.
The entry is the one that it began with. -/
structure Stretch where
  module : LoadedModule
  content : FileContent
  start : Start

namespace Stretch

/-- The world after the module was run alone. -/
def alone (e : Stretch) : World := (soloRun e.module e.content).2

/-- The serials of what the module made. -/
def serials (e : Stretch) : Renaming := e.start.serials

/-- How many things of a kind the module made. -/
def length (e : Stretch) (k : Kind) : Nat := e.alone.count k - World.initial.count k

/-- Modules of two names, which made different things. -/
def Apart (e e' : Stretch) : Prop :=
  e.module.name ≠ e'.module.name ∧ ∀ k,
    e.start.count k + e.length k ≤ e'.start.count k ∨
      e'.start.count k + e'.length k ≤ e.start.count k

/-- The module runs well alone, and what it makes there is of its own. -/
structure Proper (e : Stretch) : Prop where
  ran : (soloRun e.module e.content).1 = .ok ()
  closed : e.alone.Closed
  rooted : ∀ {i : Nat} {info}, e.alone.classes[i]? = some info → e.alone.Rooted info
  homelyClasses : ∀ {i : Nat} {info}, e.alone.classes[i]? = some info →
    info.Homely (homesOf e.module.name)
  homelyVars : ∀ {i : Nat} {v}, e.alone.typeVars[i]? = some v → v.Homely (homesOf e.module.name)
  homelyTypes : ∀ {i : Nat} {n}, e.alone.newTypes[i]? = some n →
    n.supertype.Homely (homesOf e.module.name)
  homelyNames : HomelyNames (homesOf e.module.name) (e.alone.namesOf e.module.name)

theorem Apart.symm {e e' : Stretch} (h : e.Apart e') : e'.Apart e :=
  ⟨h.1.symm, fun k => (h.2 k).symm⟩

theorem Proper.initial_le {e : Stretch} (h : e.Proper) (k : Kind) :
    World.initial.count k ≤ e.alone.count k := by
  cases k with
  | typeVar => exact h.closed.library
  | _ => exact Nat.zero_le _

theorem Proper.count_eq {e : Stretch} (h : e.Proper) (k : Kind) :
    World.initial.count k + e.length k = e.alone.count k := Nat.add_sub_cancel' (h.initial_le k)

end Stretch

/-- A world has what a module has made under the serials of its stretch. -/
structure Annotation.World.Made (w : World) (e : Stretch) : Prop where
  proper : e.Proper
  classes : ∀ {i : Nat} {info}, e.alone.classes[i]? = some info →
    w.classes[e.serials.cls i]? = some (info.rename e.serials)
  typeVars : ∀ {i : Nat} {v}, libraryVariables.length ≤ i → e.alone.typeVars[i]? = some v →
    w.typeVars[e.serials.typeVar i]? = some (v.rename e.serials)
  paramSpecs : ∀ {i : Nat} {x}, e.alone.paramSpecs[i]? = some x →
    w.paramSpecs[e.serials.paramSpec i]? = some x
  newTypes : ∀ {i : Nat} {n}, e.alone.newTypes[i]? = some n →
    w.newTypes[e.serials.newType i]? = some (n.rename e.serials)
  within : ∀ k, e.start.count k + e.length k ≤ w.count k

/-- A world has what a module has made, and finds the module with the names that it has bound. -/
structure Annotation.World.Holds (w : World) (e : Stretch) : Prop extends w.Made e where
  found : ∃ m, w.loaded? e.module.name = some m ∧ m.name = e.module.name ∧
    m.names = renamedNames e.serials (e.alone.namesOf e.module.name)

/-- A world has what modules have made, which are different things. Nobody has marked the variables
of the library. -/
structure Annotation.World.Stores (w : World) (es : List Stretch) : Prop where
  closed : w.Closed
  unmarked : w.Unmarked
  made : ∀ e ∈ es, w.Made e
  apart : es.Pairwise Stretch.Apart

/-- What a world has was left there by modules, which made different things, and it finds no other
modules. Nobody has marked the variables of the library. -/
structure Annotation.World.Stocks (w : World) (es : List Stretch) : Prop where
  closed : w.Closed
  unmarked : w.Unmarked
  holds : ∀ e ∈ es, w.Holds e
  apart : es.Pairwise Stretch.Apart
  found : ∀ n i, w.current.lookup n = some i → ∃ e ∈ es, e.module.name = n

/-- Nothing has been run in the first world. -/
theorem stocks_initial : World.initial.Stocks [] where
  closed := closed_initial
  unmarked _ _ := List.getElem?_toArray
  holds _ h := (List.not_mem_nil h).elim
  apart := .nil
  found _ _ h := nomatch h

section Kept

variable {w w' : World} {e : Stretch} {es : List Stretch}

theorem Annotation.World.Stocks.stores (h : w.Stocks es) : w.Stores es :=
  ⟨h.closed, h.unmarked, fun e he => (h.holds e he).toMade, h.apart⟩

/-- What a module has made stays there in a world that has grown, if nobody has touched its
variables. -/
theorem Annotation.World.Made.keep (h : w.Made e) (hg : w.Grown w')
    (hvars : ∀ i, libraryVariables.length ≤ i → i < w.typeVars.size →
      w'.typeVars[i]? = w.typeVars[i]?) : w'.Made e where
  proper := h.proper
  classes hi := hg.classes (h.classes hi)
  typeVars {i v} hi hv := by
    have hold := h.typeVars hi hv
    rw [hvars _ ?_ (Array.getElem?_eq_some_iff.mp hold).1]
    · exact hold
    · exact Nat.le_trans e.start.library (Start.le_typeVar hi)
  paramSpecs hi := hg.paramSpecs (h.paramSpecs hi)
  newTypes hi := hg.newTypes (h.newTypes hi)
  within k := Nat.le_trans (h.within k) (count_le_of_grown hg k)

/-- What a module has left stays there, and the module with it. -/
theorem Annotation.World.Holds.keep (h : w.Holds e) (hg : w.Grown w')
    (hvars : ∀ i, libraryVariables.length ≤ i → i < w.typeVars.size →
      w'.typeVars[i]? = w.typeVars[i]?)
    (hfound : (w'.loaded? e.module.name).map (fun m => (m.name, m.names)) =
      (w.loaded? e.module.name).map fun m => (m.name, m.names)) : w'.Holds e where
  toMade := h.toMade.keep hg hvars
  found := by
    obtain ⟨m, hm, hname, hnames⟩ := h.found
    rw [hm] at hfound
    obtain ⟨m', hm', heq⟩ := Option.map_eq_some_iff.mp hfound
    obtain ⟨hname', hnames'⟩ := Prod.ext_iff.mp heq
    exact ⟨m', hm', hname'.trans hname, hnames'.trans hnames⟩

/-- Where the modules alone are different, what was made stays as it was. -/
theorem Annotation.World.Stores.keep (h : w.Stores es) (hclosed : w'.Closed) (hg : w.Grown w')
    (hvars : w'.typeVars = w.typeVars) : w'.Stores es where
  closed := hclosed
  unmarked i hi := hvars ▸ h.unmarked i hi
  made e he := (h.made e he).keep hg fun _ _ _ => by rw [hvars]
  apart := h.apart

theorem loaded?_forgetModule (w : World) (module n : String) :
    (w.forgetModule module).loaded? n = if n = module then none else w.loaded? n := by
  rw [World.loaded?, current_forgetModule]
  split <;> rfl

/-- The stretches of other modules. -/
def Stretch.without (module : String) (es : List Stretch) : List Stretch :=
  es.filter fun e => e.module.name != module

theorem Stretch.mem_without {module : String} :
    e ∈ Stretch.without module es ↔ e ∈ es ∧ e.module.name ≠ module := by
  rw [without, List.mem_filter, bne_iff_ne]

theorem Annotation.World.Stores.without (h : w.Stores es) (module : String) :
    w.Stores (Stretch.without module es) where
  closed := h.closed
  unmarked := h.unmarked
  made e he := h.made e (Stretch.mem_without.mp he).1
  apart := h.apart.filter _

theorem Annotation.World.Stocks.forget (h : w.Stocks es) (module : String) :
    (w.forgetModule module).Stocks (Stretch.without module es) where
  closed := (World.closed_forgetModule h.closed module).1
  unmarked := h.unmarked
  holds e he := by
    obtain ⟨he, hne⟩ := Stretch.mem_without.mp he
    refine (h.holds e he).keep (World.closed_forgetModule h.closed module).2 (fun _ _ _ => rfl) ?_
    rw [loaded?_forgetModule, if_neg hne]
  apart := h.apart.filter _
  found n i hn := by
    rw [current_forgetModule] at hn
    split at hn
    · cases hn
    · next hne =>
      obtain ⟨e, he, rfl⟩ := h.found n i hn
      exact ⟨e, Stretch.mem_without.mpr ⟨he, hne⟩, rfl⟩

theorem current_changeModule (w : World) (module : String) (f : LoadedModule → LoadedModule) :
    (w.changeModule module f).current = w.current := by
  unfold World.changeModule
  split <;> rfl

theorem typeVars_changeModule (w : World) (module : String) (f : LoadedModule → LoadedModule) :
    (w.changeModule module f).typeVars = w.typeVars := by
  unfold World.changeModule
  split <;> rfl

theorem loaded?_of_current {w : World} {n : String} {i : Nat} (h : w.current.lookup n = some i) :
    w.loaded? n = w.modules[i]? := by
  rw [World.loaded?, h, Option.bind_some]

theorem count_changeModule (w : World) (module : String) (f : LoadedModule → LoadedModule)
    (k : Kind) : (w.changeModule module f).count k = w.count k := by
  unfold World.changeModule
  split <;> cases k <;> rfl

theorem size_changeModule (w : World) (module : String) (f : LoadedModule → LoadedModule) :
    (w.changeModule module f).modules.size = w.modules.size := by
  unfold World.changeModule
  split
  · exact Array.size_modify ..
  · rfl

/-- Two names do not lead to one module. -/
def Annotation.World.Distinguishes (w : World) : Prop :=
  ∀ n n' i, w.current.lookup n = some i → w.current.lookup n' = some i → n = n'

theorem Annotation.World.Stocks.distinguishes (h : w.Stocks es) : w.Distinguishes := by
  intro n n' i hn hn'
  have hname : ∀ {n}, w.current.lookup n = some i → w.modules[i]?.map LoadedModule.name = some n := by
    intro n hn
    obtain ⟨e, he, rfl⟩ := h.found n i hn
    obtain ⟨m, hm, hname, -⟩ := (h.holds e he).found
    rw [loaded?_of_current hn] at hm
    rw [hm, Option.map_some, hname]
  exact Option.some.inj ((hname hn).symm.trans (hname hn'))

/-- A change of a module changes what is found under its name alone. -/
theorem loaded?_changeModule (h : w.Distinguishes) (module n : String)
    (f : LoadedModule → LoadedModule) : (w.changeModule module f).loaded? n =
      if n = module then (w.loaded? n).map f else w.loaded? n := by
  unfold World.changeModule World.loaded?
  cases hmodule : w.current.lookup module with
  | none =>
    dsimp only
    by_cases hn : n = module
    · rw [if_pos hn, hn, hmodule]
      rfl
    · rw [if_neg hn]
  | some j =>
    dsimp only
    cases hn : w.current.lookup n with
    | none => exact (ite_self _).symm
    | some i =>
      rw [Option.bind_some, Option.bind_some, Array.getElem?_modify]
      by_cases hij : j = i
      · rw [if_pos hij, if_pos (h n module i hn (hij ▸ hmodule))]
      · rw [if_neg hij, if_neg]
        rintro rfl
        exact hij (Option.some.inj (hmodule.symm.trans hn))

/-- A change of a module that leaves its name and its names. -/
theorem Annotation.World.Stocks.change (h : w.Stocks es) (module : String)
    {f : LoadedModule → LoadedModule} (hf : ∀ m, ((f m).name, (f m).names) = (m.name, m.names)) :
    (w.changeModule module f).Stocks es := by
  have hnames : ∀ m, (f m).names = m.names := fun m => congrArg Prod.snd (hf m)
  obtain ⟨hclosed, hgrown⟩ := World.closed_changeModule h.closed module
    (f := f) fun m hm => (hnames m).symm ▸ hm
  refine ⟨hclosed, fun i hi => ?_, fun e he => (h.holds e he).keep hgrown (fun i _ _ => ?_) ?_,
    h.apart, fun n i hn => h.found n i (current_changeModule w module f ▸ hn)⟩
  · rw [typeVars_changeModule]
    exact h.unmarked i hi
  · rw [typeVars_changeModule]
  · rw [loaded?_changeModule h.distinguishes]
    split
    · rw [Option.map_map]
      exact congrArg ((w.loaded? e.module.name).map ·) (funext hf)
    · rfl

end Kept

/-! One more module. -/

theorem Annotation.World.Renames.on_count {ρ : Renaming} {K : String → Prop} {w w' : World}
    (h : w.Renames ρ K w') (k : Kind) (n : Nat) : ρ.on k (w.count k + n) = w'.count k + n := by
  cases k with
  | cls => exact h.nextClass n
  | typeVar => exact h.nextTypeVar n
  | paramSpec => exact h.nextParamSpec n
  | newType => exact h.nextNewType n

/-- A module run alone leaves a closed world, grown from the first one. -/
theorem closed_soloRun {m : LoadedModule} (content : FileContent) (hm : m.names = []) :
    (soloRun m content).2.Closed ∧ World.initial.Grown (soloRun m content).2 := by
  obtain ⟨hclosed, hgrown⟩ := World.closed_addModule closed_initial (m := m)
    (hm ▸ fun _ h => (List.not_mem_nil h).elim)
  have hkeeps : Keeps (soloWorld m) (SearchPath.execute
      ((⟨.empty [], []⟩ : SearchPath).importFrom m.name) m.name content) :=
    keeps_execute (imports_importFrom m.name)
  obtain ⟨hclosed', hgrown', -⟩ := hkeeps hclosed
  exact ⟨hclosed', hgrown.trans hgrown'⟩

/-- A module run alone has left the variables of the library as they were if none of them has a
mark. -/
theorem unmarked_soloRun {m : LoadedModule} {content : FileContent} (hm : m.names = [])
    (hplain : ∀ i < libraryVariables.length,
      (soloRun m content).2.typeVars[i]?.map TypeVariable.needsConstructor = some false) :
    (soloRun m content).2.Unmarked := by
  intro i hi
  obtain ⟨-, hgrown⟩ := closed_soloRun content hm
  have hfirst : World.initial.typeVars[i]? = some libraryVariables[i] := by
    rw [show World.initial.typeVars[i]? = libraryVariables[i]? from List.getElem?_toArray]
    exact List.getElem?_eq_getElem hi
  obtain ⟨v, hv, houtline⟩ := hgrown.typeVars hfirst
  have hmark : v.needsConstructor = false := by
    have h := hplain i hi
    rw [hv] at h
    exact Option.some.inj h
  have hnone : ∀ x ∈ libraryVariables, x.needsConstructor = false := by
    intro x hx
    unfold libraryVariables at hx
    simp only [List.mem_cons, List.not_mem_nil, or_false] at hx
    rcases hx with rfl | rfl | rfl | rfl | rfl | rfl | rfl | rfl | rfl <;> rfl
  have hself : ∀ x : TypeVariable, x.needsConstructor = false → x.outline = x := by
    rintro ⟨⟩ rfl
    rfl
  rw [hv, List.getElem?_eq_getElem hi, ← hself v hmark, houtline,
    hself _ (hnone _ (List.getElem_mem hi))]

section Ran

variable {w w₁ : World} {m : LoadedModule} {content : FileContent} {es : List Stretch}
  {e : Stretch} {s : SearchPath} {N : String → Prop} {fuel : String → Nat}

/-- What there is after a module has run in a world, however the run has ended. -/
structure Annotation.World.Hosts.Runs (h : w.Hosts m) (content : FileContent) (w₁ : World) :
    Prop where
  closed : w₁.Closed
  grown : w.Grown w₁
  follows : h.track.Follows (soloRun m content).2 w₁
  spares : h.track.Spares w w₁

namespace Annotation.World.Hosts

theorem runs (h : w.Hosts m) (hnames : m.names = [])
    (hplain : m.folders = none ∨ SearchPath.ImportsAbsolute content) (hwithin : w.Within N)
    (ha : SearchPath.ImportsAbroad s N m.name content) (hfuel : SearchPath.Suffices fuel content)
    (hspared : World.Spared h.track.Misses (soloRun m content).1) :
    ∃ w₁, (SearchPath.execute (s.importWithin fuel m.name) m.name content).run.run w =
      ((soloRun m content).1, w₁) ∧ h.Runs content w₁ := by
  obtain ⟨w₁, hrun, hfollows, hspares⟩ := h.run hnames hplain hwithin ha hfuel hspared
  have himports : Imports (s.importWithin fuel m.name) := fun written names w =>
    imports_importWith (fun _ _ => keeps_importNamed) m.name written names w
  have hexecute : Keeps w (SearchPath.execute (s.importWithin fuel m.name) m.name content) :=
    keeps_execute himports
  have hkeeps := hexecute h.closed
  rw [hrun] at hkeeps
  exact ⟨w₁, hrun, hkeeps.1, hkeeps.2.1, hfollows, hspares⟩

namespace Runs

variable {h : w.Hosts m} (hruns : h.Runs content w₁)

include hruns

theorem unmarked (hsolo : (soloRun m content).2.Unmarked) : w₁.Unmarked := by
  intro i hi
  have hsame := hruns.follows.renames.typeVars i
  have hserial : h.track.serials.typeVar i = i := Start.typeVar_of_lt hi
  rw [hserial, hsolo i hi, List.getElem?_eq_getElem hi, Option.map_some,
    rename_libraryVariable (List.getElem_mem hi)] at hsame
  rw [hsame, List.getElem?_eq_getElem hi]

/-- What has been made before stays. -/
theorem keeps (he : w.Made e) : w₁.Made e := by
  refine he.keep hruns.grown fun i hi hlt => hruns.spares.typeVars i fun j hj => ?_
  change (w.start h.closed).serials.typeVar j = i at hj
  by_cases hlib : j < libraryVariables.length
  · rw [Start.typeVar_of_lt hlib] at hj
    exact Nat.not_le_of_lt hlib (hj ▸ hi)
  · have hle := Start.le_typeVar (b := w.start h.closed) (Nat.le_of_not_lt hlib)
    rw [hj] at hle
    exact Nat.not_le_of_lt hlt hle

/-- A module that has run well has made a stretch. -/
theorem made (hm : m.names = []) (hok : (soloRun m content).1 = .ok ()) :
    w₁.Made ⟨m, content, w.start h.closed⟩ ∧
      ∀ k, w.count k + Stretch.length ⟨m, content, w.start h.closed⟩ k = w₁.count k := by
  have hrenames := hruns.follows.renames
  obtain ⟨hclosed, hgrown⟩ := closed_soloRun content hm
  have hproper : Stretch.Proper ⟨m, content, w.start h.closed⟩ := by
    refine ⟨hok, hclosed, fun hi => ?_, hrenames.homelyClasses, hrenames.homelyVars,
      hrenames.homelyTypes, hruns.follows.names.homely⟩
    exact (hgrown.rooted hi).resolve_left nofun
  have hcount : ∀ k, w.count k + Stretch.length ⟨m, content, w.start h.closed⟩ k = w₁.count k := by
    intro k
    have hnext := hrenames.on_count k 0
    rw [Nat.add_zero, Nat.add_zero] at hnext
    rw [← hnext]
    change _ = (w.start h.closed).serials.on k
      (Stretch.alone ⟨m, content, w.start h.closed⟩ |>.count k)
    rw [← hproper.count_eq k, Start.on_add, count_start]
  refine ⟨⟨hproper, fun {i info} hi => ?_, fun {i v} _ hi => ?_, fun {i x} hi => ?_,
    fun {i n} hi => ?_, fun k => ?_⟩, hcount⟩
  · exact (hrenames.classes i).trans (congrArg (Option.map _) hi)
  · exact (hrenames.typeVars i).trans (congrArg (Option.map _) hi)
  · exact (hrenames.paramSpecs i).trans hi
  · exact (hrenames.newTypes i).trans (congrArg (Option.map _) hi)
  · rw [count_start, hcount]

/-- The stretches that there were stay. -/
theorem stores (hes : w.Stores es) (hsolo : (soloRun m content).2.Unmarked) : w₁.Stores es where
  closed := hruns.closed
  unmarked := hruns.unmarked hsolo
  made e he := hruns.keeps (hes.made e he)
  apart := hes.apart

/-- A module that has run well has one more stretch, behind all others. -/
theorem stores_made (hes : w.Stores es) (hsolo : (soloRun m content).2.Unmarked)
    (hm : m.names = []) (hok : (soloRun m content).1 = .ok ())
    (hdifferent : ∀ e ∈ es, e.module.name ≠ m.name) :
    w₁.Stores (es ++ [⟨m, content, w.start h.closed⟩]) where
  closed := hruns.closed
  unmarked := hruns.unmarked hsolo
  made := List.forall_mem_append.mpr ⟨fun e he => hruns.keeps (hes.made e he),
    List.forall_mem_singleton.mpr (hruns.made hm hok).1⟩
  apart := by
    refine List.pairwise_append.mpr
      ⟨hes.apart, List.pairwise_singleton .., fun e he e' he' => ?_⟩
    cases List.mem_singleton.mp he'
    refine ⟨hdifferent e he, fun k => .inl ?_⟩
    rw [count_start]
    exact (hes.made e he).within k

/-- Modules under other serials are found as before. -/
theorem loaded?_other {n : String}
    (hn : ∀ i, w.current.lookup n = some i → w.current.lookup m.name ≠ some i) :
    w₁.loaded? n = w.loaded? n := by
  unfold World.loaded?
  rw [hruns.spares.current]
  cases hi : w.current.lookup n with
  | none => rfl
  | some i => exact hruns.spares.others i (hn i hi)

/-- The module itself is found as before but for its names. -/
theorem loaded?_own {x : LoadedModule} (hx : w.loaded? m.name = some x) :
    ∃ names, w₁.loaded? m.name = some { x with names := names } := by
  obtain ⟨i, hi, hx⟩ := Option.bind_eq_some_iff.mp hx
  rw [World.loaded?, hruns.spares.current, hi]
  exact hruns.spares.own i x hx

end Runs

end Annotation.World.Hosts

end Ran

section Launched

variable {w w₁ : World} {m : LoadedModule} {content : FileContent} {es : List Stretch}
  {s : SearchPath} {N : String → Prop}

/-- What there is after a new module was run in a stocked world, however the run has ended. -/
structure Annotation.World.Stocks.Runs (h : w.Stocks es) (m : LoadedModule) (content : FileContent)
    (w₁ : World) : Prop where
  closed : w₁.Closed
  unmarked : w₁.Unmarked
  different : ∀ e ∈ es, e.module.name ≠ m.name
  holds : ∀ e ∈ es, w₁.Holds e
  others : ∀ n ≠ m.name, w₁.current.lookup n = w.current.lookup n ∧ w₁.loaded? n = w.loaded? n
  current : w₁.current.lookup m.name = some w.modules.size
  entry : ∃ names, w₁.modules[w.modules.size]? = some { m with names := names }
  made : (soloRun m content).1 = .ok () → w₁.Holds ⟨m, content, w.start h.closed⟩ ∧
    ∀ k, w.count k + Stretch.length ⟨m, content, w.start h.closed⟩ k = w₁.count k

namespace Annotation.World.Stocks

/-- A module under a name of its own is another one than a new module. -/
theorem lookup_addModule_ne (h : w.Stocks es) {n : String} {i : Nat}
    (hi : w.current.lookup n = some i) : i ≠ w.modules.size := by
  obtain ⟨e, he, rfl⟩ := h.found n i hi
  obtain ⟨x, hx, -⟩ := (h.holds e he).found
  rw [loaded?_of_current hi] at hx
  exact Nat.ne_of_lt (Array.getElem?_eq_some_iff.mp hx).1

theorem loaded?_addModule (h : w.Stocks es) {n : String} (hn : n ≠ m.name) :
    (w.addModule m).loaded? n = w.loaded? n := by
  rw [TypeProjection.loaded?_addModule, if_neg hn, World.loaded?]
  cases hi : w.current.lookup n with
  | none => rfl
  | some i =>
    rw [Option.bind_some, Option.bind_some, Array.getElem?_push, if_neg (h.lookup_addModule_ne hi)]

theorem runs (h : w.Stocks es) (hm : m.names = [] ∧ m.folders = none ∧ N m.name)
    (hnew : w.current.lookup m.name = none) (hes : ∀ e ∈ es, N e.module.name)
    (hN : ∀ n, N n → n ∉ libraryModules) (ha : SearchPath.ImportsAbroad s N m.name content)
    (hsolo : (soloRun m content).2.Unmarked) :
    ∃ w₁, (SearchPath.execute (s.importFrom m.name) m.name content).run.run (w.addModule m) =
      ((soloRun m content).1, w₁) ∧ h.Runs m content w₁ := by
  have hwithin : w.Within N := by
    intro n i hi
    obtain ⟨e, he, rfl⟩ := h.found n i hi
    exact hes e he
  have hhosts : (w.addModule m).Hosts m := by
    refine hosts_addModule h.closed h.unmarked (fun n hn => ?_) hm.1 (hN _ hm.2.2)
    cases hi : w.current.lookup n with
    | none => rfl
    | some i => exact (hN n (hwithin n i hi) hn).elim
  have hempty : hhosts.track.earlier = [] := (namesOf_addModule w m).trans hm.1
  have hadded : (w.addModule m).Within N := by
    intro n i hi
    rw [current_addModule] at hi
    split at hi
    · next hn => exact hn ▸ hm.2.2
    · exact hwithin n i hi
  obtain ⟨w₁, hrun, hruns⟩ := hhosts.runs hm.1 (.inl hm.2.1) hadded ha
    (SearchPath.suffices_fuel s content) (Track.spared hempty _)
  have hdifferent : ∀ e ∈ es, e.module.name ≠ m.name := by
    intro e he heq
    obtain ⟨x, hx, -⟩ := (h.holds e he).found
    rw [heq, World.loaded?, hnew] at hx
    cases hx
  have hown : (w.addModule m).current.lookup m.name = some w.modules.size :=
    (current_addModule w m m.name).trans (if_pos rfl)
  have hcurrent : w₁.current.lookup m.name = some w.modules.size := by
    rw [hruns.spares.current, hown]
  have hother : ∀ n ≠ m.name, w₁.current.lookup n = w.current.lookup n ∧
      w₁.loaded? n = w.loaded? n := by
    intro n hn
    refine ⟨by rw [hruns.spares.current, current_addModule, if_neg hn], ?_⟩
    rw [hruns.loaded?_other, h.loaded?_addModule hn]
    intro i hi hsame
    rw [current_addModule, if_neg hn] at hi
    exact h.lookup_addModule_ne hi (Option.some.inj (hsame.symm.trans hown))
  have hentry : ∃ names, w₁.modules[w.modules.size]? = some { m with names := names } :=
    hruns.spares.own w.modules.size m Array.getElem?_push_size
  refine ⟨w₁, hrun, hruns.closed, hruns.unmarked hsolo, hdifferent, fun e he => ?_, hother,
    hcurrent, hentry, fun hok => ?_⟩
  · have hheld := h.holds e he
    refine ⟨hruns.keeps (hheld.toMade.keep (World.closed_addModule h.closed
      (hm.1 ▸ fun _ h => (List.not_mem_nil h).elim)).2 fun _ _ _ => rfl), ?_⟩
    rw [(hother _ (hdifferent e he)).2]
    exact hheld.found
  · obtain ⟨hmade, hcount⟩ := hruns.made hm.1 hok
    obtain ⟨names, hentry⟩ := hentry
    refine ⟨⟨hmade, _, (loaded?_of_current hcurrent).trans hentry, rfl, ?_⟩, hcount⟩
    rw [← namesOf_eq hcurrent hentry]
    exact hruns.follows.names.eq_renamed hempty

namespace Runs

variable {h : w.Stocks es} (hruns : h.Runs m content w₁)

include hruns

theorem found {n : String} (hn : n ≠ m.name) {i : Nat} (hi : w₁.current.lookup n = some i) :
    ∃ e ∈ es, e.module.name = n := h.found n i ((hruns.others n hn).1 ▸ hi)

/-- A module that has failed is forgotten, and the stretches are as before. -/
theorem forget : (w₁.forgetModule m.name).Stocks es where
  closed := (World.closed_forgetModule hruns.closed _).1
  unmarked := hruns.unmarked
  holds e he := by
    refine (hruns.holds e he).keep (World.closed_forgetModule hruns.closed _).2
      (fun _ _ _ => rfl) ?_
    rw [loaded?_forgetModule, if_neg (hruns.different e he)]
  apart := h.apart
  found n i hi := by
    rw [current_forgetModule] at hi
    split at hi
    · cases hi
    · next hn => exact hruns.found hn hi

/-- A module that has run well has one more stretch, behind all others. -/
theorem stocks (hok : (soloRun m content).1 = .ok ()) :
    w₁.Stocks (es ++ [⟨m, content, w.start h.closed⟩]) where
  closed := hruns.closed
  unmarked := hruns.unmarked
  holds := List.forall_mem_append.mpr
    ⟨hruns.holds, List.forall_mem_singleton.mpr (hruns.made hok).1⟩
  apart := by
    refine List.pairwise_append.mpr
      ⟨h.apart, List.pairwise_singleton .., fun e he e' he' => ?_⟩
    cases List.mem_singleton.mp he'
    refine ⟨hruns.different e he, fun k => .inl ?_⟩
    rw [count_start]
    exact (h.holds e he).within k
  found n i hi := by
    by_cases hn : n = m.name
    · exact ⟨_, List.mem_append_right _ (List.mem_singleton_self _), hn.symm⟩
    · obtain ⟨e, he, hname⟩ := hruns.found hn hi
      exact ⟨e, List.mem_append_left _ he, hname⟩

theorem size_lt : w.modules.size < w₁.modules.size := by
  obtain ⟨names, hown⟩ := hruns.entry
  exact (Array.getElem?_eq_some_iff.mp hown).1

end Runs

/-- Launching a new module goes as it does alone. If the module runs well, the world has one more
stretch, which begins where the world ended; if not, it has the ones that it had. -/
theorem launch (h : w.Stocks es) (hm : m.names = [] ∧ m.folders = none ∧ N m.name)
    (hnew : w.current.lookup m.name = none) (hes : ∀ e ∈ es, N e.module.name)
    (hN : ∀ n, N n → n ∉ libraryModules) (ha : SearchPath.ImportsAbroad s N m.name content)
    (hsolo : (soloRun m content).2.Unmarked) :
    ∃ w', (SearchPath.launch m (SearchPath.execute (s.importFrom m.name) m.name content)).run.run w =
        ((soloRun m content).1, w') ∧ w.modules.size < w'.modules.size ∧
      (∀ n ≠ m.name, w'.current.lookup n = w.current.lookup n ∧ w'.loaded? n = w.loaded? n) ∧
      match (soloRun m content).1 with
      | .ok _ => w'.Stocks (es ++ [⟨m, content, w.start h.closed⟩]) ∧
          (∀ k, w.count k + Stretch.length ⟨m, content, w.start h.closed⟩ k = w'.count k) ∧
          ∃ names, w'.loaded? m.name = some { m with names := names, isReady := true }
      | .error _ => w'.Stocks es ∧ w'.current.lookup m.name = none := by
  obtain ⟨w₁, hrun, hruns⟩ := h.runs hm hnew hes hN ha hsolo
  rw [run_launch, hrun]
  rcases hresult : (soloRun m content).1 with f | ⟨⟩
  · refine ⟨_, rfl, hruns.size_lt, fun n hn => ?_, hruns.forget, ?_⟩
    · rw [current_forgetModule, if_neg hn, loaded?_forgetModule, if_neg hn]
      exact hruns.others n hn
    · rw [current_forgetModule, if_pos rfl]
  · have hstocks := hruns.stocks hresult
    obtain ⟨names, hown⟩ := hruns.entry
    refine ⟨_, rfl, ?_, fun n hn => ⟨?_, ?_⟩, hstocks.change m.name fun _ => rfl, fun k => ?_,
      names, ?_⟩
    · rw [size_changeModule]
      exact hruns.size_lt
    · rw [current_changeModule]
      exact (hruns.others n hn).1
    · rw [loaded?_changeModule hstocks.distinguishes, if_neg hn]
      exact (hruns.others n hn).2
    · rw [(hruns.made hresult).2, count_changeModule]
    · rw [loaded?_changeModule hstocks.distinguishes, if_pos rfl, loaded?_of_current hruns.current,
        hown]
      rfl

end Annotation.World.Stocks

end Launched

end TypeProjection
