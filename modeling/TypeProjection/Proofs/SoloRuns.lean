import TypeProjection.Proofs.AbroadImports
import TypeProjection.Proofs.LoadedWorlds

/-!
# Modules that run alone

What a module makes when it is run in the first world is what it makes in any other, under serials
that begin where the other world ends: the imports are abroad, so the module needs nothing that was
made before. The variables of the library are the only things that all modules share; a run goes on
like the one alone as long as nothing marks them. This is so of a new module, and of one that was run
before, as long as the run does not fail for want of a name that the module had before.
-/

namespace TypeProjection

open Annotation Definition
open Value (AllHomely)

/-- How much a world has made, variables of the library included. -/
structure Start where
  classes : Nat
  typeVars : Nat
  paramSpecs : Nat
  newTypes : Nat
  library : libraryVariables.length ≤ typeVars

/-- The serials of what is made next, one after another. -/
def Start.serials (b : Start) : Renaming where
  cls i := b.classes + i
  typeVar i :=
    if i < libraryVariables.length then i else b.typeVars + (i - libraryVariables.length)
  paramSpec i := b.paramSpecs + i
  newType i := b.newTypes + i
  cls_injective _ _ h := Nat.add_left_cancel h
  typeVar_injective i j h := by
    have := b.library
    dsimp only at h
    split at h <;> split at h <;> omega
  paramSpec_injective _ _ h := Nat.add_left_cancel h
  newType_injective _ _ h := Nat.add_left_cancel h
  library _ hi := if_pos hi

namespace Start

variable {b : Start} {i n : Nat}

theorem typeVar_of_lt (h : i < libraryVariables.length) : b.serials.typeVar i = i := if_pos h

theorem typeVar_add : b.serials.typeVar (libraryVariables.length + n) = b.typeVars + n := by
  have hnot : ¬ libraryVariables.length + n < libraryVariables.length := by omega
  exact (if_neg hnot).trans (by rw [Nat.add_sub_cancel_left])

theorem le_typeVar (h : libraryVariables.length ≤ i) : b.typeVars ≤ b.serials.typeVar i := by
  obtain ⟨n, rfl⟩ := Nat.exists_eq_add_of_le h
  rw [typeVar_add]
  exact Nat.le_add_right _ _

end Start

/-- What is made next in a closed world. -/
def Annotation.World.start (w : World) (hw : w.Closed) : Start :=
  ⟨w.classes.size, w.typeVars.size, w.paramSpecs.size, w.newTypes.size, hw.library⟩

/-- The variables of the library are as they were first. -/
def Annotation.World.Unmarked (w : World) : Prop :=
  ∀ i < libraryVariables.length, w.typeVars[i]? = libraryVariables[i]?

/-- The modules whose texts a module can hold: its own, and those of the library. -/
def homesOf (module n : String) : Prop := n = module ∨ n = "" ∨ n ∈ libraryModules

/-- The world in which a module is run alone. -/
def soloWorld (m : LoadedModule) : World := World.initial.addModule m

/-- The run of a module alone. -/
def soloRun (m : LoadedModule) (content : FileContent) : Except Fault Unit × World :=
  (SearchPath.execute ((⟨.empty [], []⟩ : SearchPath).importFrom m.name) m.name content).run.run
    (soloWorld m)

/-- A world in which a module is about to run. It may have been run there before; but none of its
names hides one that every module has. -/
structure Annotation.World.Hosts (w : World) (m : LoadedModule) : Prop where
  closed : w.Closed
  unmarked : w.Unmarked
  absent : ∀ n ∈ libraryModules, w.loaded? n = none
  found : (w.loaded? m.name).map LoadedModule.folders = some m.folders
  nodup : (keys (w.namesOf m.name)).Nodup
  visible : ∀ e ∈ w.namesOf m.name, builtinName? e.1 = none

/-- The run of a module alone, carried to a world in which it is about to run. -/
def Annotation.World.Hosts.track {w : World} {m : LoadedModule} (h : w.Hosts m) : Track where
  serials := (w.start h.closed).serials
  homes := homesOf m.name
  module := m.name
  earlier := w.namesOf m.name
  folders := m.folders
  entries := (soloWorld m).current
  entries' := w.current
  home := .inl rfl
  visible := h.visible

section Solo

variable {m : LoadedModule} {w : World} {content : FileContent} {ρ : Renaming} {K : String → Prop}

theorem rename_libraryVariable {v : TypeVariable} (h : v ∈ libraryVariables) : v.rename ρ = v := by
  unfold libraryVariables at h
  simp only [List.mem_cons, List.not_mem_nil, or_false] at h
  rcases h with rfl | rfl | rfl | rfl | rfl | rfl | rfl | rfl | rfl <;> rfl

theorem homely_libraryVariable (hK : ∀ m ∈ libraryModules, K m) {v : TypeVariable}
    (h : v ∈ libraryVariables) : v.Homely K := by
  have hm := hK "typing" (by decide)
  unfold libraryVariables at h
  simp only [List.mem_cons, List.not_mem_nil, or_false] at h
  rcases h with rfl | rfl | rfl | rfl | rfl | rfl | rfl | rfl | rfl <;> exact ⟨hm, by simp⟩

theorem loaded?_addModule (w : World) (m : LoadedModule) (n : String) :
    (w.addModule m).loaded? n =
      if n = m.name then some m else (w.current.lookup n).bind fun i => (w.modules.push m)[i]? := by
  unfold World.addModule World.loaded?
  dsimp only
  rw [lookup_putPair]
  split
  · exact Array.getElem?_push_size
  · rfl

theorem namesOf_addModule (w : World) (m : LoadedModule) :
    (w.addModule m).namesOf m.name = m.names := by
  rw [World.namesOf, loaded?_addModule, if_pos rfl]
  rfl

theorem typeVars_soloWorld (m : LoadedModule) (i : Nat) :
    (soloWorld m).typeVars[i]? = libraryVariables[i]? := List.getElem?_toArray

/-- The modules that the solo run can find. -/
theorem lookup_soloWorld {n : String} {i : Nat} (h : (soloWorld m).current.lookup n = some i) :
    n = m.name := by
  change (putPair m.name 0 []).lookup n = some i at h
  rw [lookup_putPair] at h
  split at h
  · assumption
  · cases h

/-- A world is ready for a new module. -/
theorem hosts_addModule (hw : w.Closed) (hu : w.Unmarked)
    (habsent : ∀ n ∈ libraryModules, w.current.lookup n = none) (hnames : m.names = [])
    (hname : m.name ∉ libraryModules) : (w.addModule m).Hosts m where
  closed := (World.closed_addModule hw (hnames ▸ fun _ h => (List.not_mem_nil h).elim)).1
  unmarked := hu
  absent n hn := by
    have hne : n ≠ m.name := fun h => hname (h ▸ hn)
    rw [loaded?_addModule, if_neg hne, habsent n hn]
    rfl
  found := by
    rw [loaded?_addModule, if_pos rfl]
    rfl
  nodup := by
    rw [namesOf_addModule, hnames]
    exact List.nodup_nil
  visible := by
    rw [namesOf_addModule, hnames]
    exact fun _ h => (List.not_mem_nil h).elim

namespace Annotation.World.Hosts

variable (h : w.Hosts m)

include h

/-- The world alone stands inside of the other one, under the serials that come next. -/
theorem renames : (soloWorld m).Renames h.track.serials (homesOf m.name) w where
  classes i := Array.getElem?_eq_none (Nat.le_add_right ..)
  typeVars i := by
    rw [typeVars_soloWorld]
    by_cases hi : i < libraryVariables.length
    · have hsame : w.typeVars[i]? = libraryVariables[i]? := h.unmarked i hi
      have hserial : h.track.serials.typeVar i = i := Start.typeVar_of_lt hi
      rw [hserial, hsame, List.getElem?_eq_getElem hi, Option.map_some,
        rename_libraryVariable (List.getElem_mem hi)]
    · rw [List.getElem?_eq_none (Nat.le_of_not_lt hi)]
      exact Array.getElem?_eq_none
        (Start.le_typeVar (b := w.start h.closed) (Nat.le_of_not_lt hi))
  paramSpecs i := Array.getElem?_eq_none (Nat.le_add_right ..)
  newTypes i := Array.getElem?_eq_none (Nat.le_add_right ..)
  nextClass n := congrArg (w.classes.size + ·) (Nat.zero_add n)
  nextTypeVar n := Start.typeVar_add
  nextParamSpec n := congrArg (w.paramSpecs.size + ·) (Nat.zero_add n)
  nextNewType n := congrArg (w.newTypes.size + ·) (Nat.zero_add n)
  blank := .inr (.inl rfl)
  known n hn := .inr (.inr hn)
  absent n hn := by
    have hnone := h.absent n hn
    refine ⟨?_, hnone⟩
    have hne : n ≠ m.name := by
      rintro rfl
      have hfound := h.found
      rw [hnone] at hfound
      cases hfound
    rw [soloWorld, loaded?_addModule, if_neg hne]
    rfl
  homelyClasses h := nomatch h
  homelyVars {i v} hv := by
    rw [typeVars_soloWorld] at hv
    exact homely_libraryVariable (fun n hn => .inr (.inr hn)) (List.mem_of_getElem? hv)
  homelyTypes h := nomatch h

/-- Before the module is run, nothing is different but where serials begin and which names it
has. -/
theorem follows (hnames : m.names = []) : h.track.Follows (soloWorld m) w where
  renames := h.renames
  names := by
    have hempty : (soloWorld m).namesOf m.name = [] := (namesOf_addModule _ m).trans hnames
    change h.track.Overlays ((soloWorld m).namesOf m.name) (w.namesOf m.name)
    rw [hempty]
    refine ⟨fun _ => rfl, ?_, List.nodup_nil, fun _ h => (List.not_mem_nil h).elim⟩
    exact (distinct_of_nodup h.nodup).symm.trans (congrArg distinct (List.append_nil _).symm)
  left := ⟨rfl, by
    rw [soloWorld]
    exact (congrArg (Option.map _) ((loaded?_addModule ..).trans (if_pos rfl))).trans rfl⟩
  right := ⟨rfl, h.found⟩

/-- A module runs in another world as it runs alone. -/
theorem run {s : SearchPath} {N : String → Prop} {fuel : String → Nat} (hnames : m.names = [])
    (hplain : m.folders = none ∨ SearchPath.ImportsAbsolute content) (hwithin : w.Within N)
    (ha : SearchPath.ImportsAbroad s N m.name content)
    (hfuel : SearchPath.Suffices fuel content)
    (hspared : World.Spared h.track.Misses (soloRun m content).1) :
    ∃ w₁, (SearchPath.execute (s.importWithin fuel m.name) m.name content).run.run w =
        ((soloRun m content).1, w₁) ∧
      h.track.Follows (soloRun m content).2 w₁ ∧ h.track.Spares w w₁ := by
  have hname : N m.name := by
    obtain ⟨x, hx, -⟩ := Option.map_eq_some_iff.mp h.found
    obtain ⟨i, hi, -⟩ := Option.bind_eq_some_iff.mp hx
    exact hwithin m.name i hi
  have hcarries : h.track.Carries id (fun _ => True) (soloWorld m) w
      (SearchPath.execute ((⟨.empty [], []⟩ : SearchPath).importFrom m.name) m.name content)
      (SearchPath.execute (s.importWithin fuel m.name) m.name content) :=
    SearchPath.carries_execute (T := h.track) hplain (fun n i hi => lookup_soloWorld hi ▸ hname)
      hwithin ha.nowhere ha (SearchPath.suffices_fuel _ _) hfuel
  obtain ⟨hresult, hafter, hspares, -⟩ := hcarries (h.follows hnames) hspared
  rw [Except.map_id] at hresult
  unfold soloRun
  generalize (SearchPath.execute (s.importWithin fuel m.name) m.name content).run.run w = x
    at hresult hafter hspares ⊢
  exact ⟨x.2, Prod.ext hresult rfl, hafter, hspares⟩

end Annotation.World.Hosts

end Solo

end TypeProjection
