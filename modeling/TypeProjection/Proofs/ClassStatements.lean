import Mathlib.Data.List.Nodup
import TypeProjection.Proofs.LoadedWorlds
import TypeProjection.Proofs.MadeClasses

/-!
# Which class statement made a class

A module makes one class for each class statement that it runs, in the order in which the bodies of
the statements end. Modules that it imports on the way are run as modules of their own: what was
there before stays as it is, and the classes that they make are not the module's. So the classes of
a module, in order, are what its class statements made, even if other classes were made in between.
-/

namespace TypeProjection

open Annotation Definition

/-! Class statements. -/

namespace Definition

mutual

/-- The paths of the classes that a class statement makes: those in its body, and then its own. -/
def ClassDefinition.paths (around : List String) : ClassDefinition → List String
  | .mk written _ _ _ body =>
    let here := around ++ [Text.normalForm written]
    BodyItem.pathsOfAll here body ++ [String.intercalate "." here]

/-- The paths of the classes that the items of a body make. -/
def BodyItem.pathsOfAll (around : List String) : List BodyItem → List String
  | [] => []
  | item :: rest => item.paths around ++ BodyItem.pathsOfAll around rest

/-- The paths of the classes that an item of a body makes. -/
def BodyItem.paths (around : List String) : BodyItem → List String
  | .cls d => d.paths around
  | .enum d => [String.intercalate "." (around ++ [Text.normalForm d.name])]
  | _ => []

end

/-- The paths of the classes that a definition of a module makes. -/
def ModuleItem.paths : ModuleItem → List String
  | .cls d => d.paths []
  | .enum d => [String.intercalate "." [Text.normalForm d.name]]
  | _ => []

end Definition

/-- The class statements of a source file, by the paths of their classes, in the order in which
their bodies end. -/
def FileContent.classStatements : FileContent → List String
  | .bytes _ => []
  | .definitions s => s.definitions.flatMap ModuleItem.paths

/-- The class statements of the file at a place. -/
def FileTree.classStatements (t : FileTree) (p : Place) : List String :=
  (SearchPath.contentAt t p).classStatements

/-! What runs leave and what they make. -/

namespace Annotation

/-- The paths of those classes that are a module's, in order. -/
def pathsIn (module : String) (cs : List ClassInfo) : List String :=
  (cs.filter fun c => c.module == module).map ClassInfo.path

theorem pathsIn_append (module : String) (cs ds : List ClassInfo) :
    pathsIn module (cs ++ ds) = pathsIn module cs ++ pathsIn module ds := by
  rw [pathsIn, List.filter_append, List.map_append]
  rfl

theorem pathsIn_eq_nil {module : String} {cs : List ClassInfo}
    (h : ∀ c ∈ cs, c.module ≠ module) : pathsIn module cs = [] := by
  rw [pathsIn, List.filter_eq_nil_iff.mpr, List.map_nil]
  exact fun c hc => by simpa using h c hc

namespace World

/-- A module is found by its name. -/
def Finds (w : World) (module : String) : Prop :=
  ∃ i m, w.current.lookup module = some i ∧ w.modules[i]? = some m ∧ m.name = module

/-- A module entry is still the one that it was, but for its names and whether it is ready. -/
structure SameModule (m m' : LoadedModule) : Prop where
  name : m'.name = m.name
  file : m'.file = m.file
  folders : m'.folders = m.folders
  version : m'.version = m.version

/-- What running a part of a module, or something outside of all modules, leaves and makes in a
world where the files of a tree are found. `own` is the module, and `paths` are those of its
classes; the other new classes are classes of new modules. -/
structure Ran (t : FileTree) (own : Option String) (paths : List String) (w w' : World)
    (made : List ClassInfo) : Prop where
  classes : w'.classes.toList = w.classes.toList ++ made
  ownPaths : ∀ module ∈ own, pathsIn module made = paths
  others : ∀ c ∈ made, c.module ∉ own → w.current.lookup c.module = none ∧
    ∃ (i : Nat) (m : LoadedModule), w.modules.size ≤ i ∧ w'.modules[i]? = some m ∧
      m.name = c.module ∧ m.file.isSome = true
  current : ∀ module i, w.current.lookup module = some i → w'.current.lookup module = some i
  modules : ∀ (i : Nat) m, w.modules[i]? = some m → ∃ m', w'.modules[i]? = some m' ∧ SameModule m m'
  /-- Only the module itself binds names, and a package gets its submodules. -/
  names : ∀ (i : Nat) (m : LoadedModule), w.modules[i]? = some m → m.folders = none →
    (∀ module ∈ own, w.current.lookup module ≠ some i) →
    ∃ m', w'.modules[i]? = some m' ∧ m'.names = m.names
  found : ∀ module i, w'.current.lookup module = some i → w.current.lookup module = some i ∨
    w.modules.size ≤ i ∧ ∃ m, w'.modules[i]? = some m ∧ m.name = module
  unversioned : ∀ (i : Nat) (m : LoadedModule), w.modules.size ≤ i → w'.modules[i]? = some m →
    m.version = none
  /-- A new module that has its name to itself makes what the class statements of its file say. -/
  logged : (w'.modules.toList.map LoadedModule.name).Nodup → ∀ (i : Nat) m f, w.modules.size ≤ i →
    w'.modules[i]? = some m → m.file = some f →
    ∃ p, f = SearchPath.absolute p ∧ pathsIn m.name made <+: t.classStatements p

variable {t : FileTree} {own : Option String} {paths paths' : List String} {w w' w'' : World}
  {made made' : List ClassInfo} {module : String}

theorem SameModule.refl (m : LoadedModule) : SameModule m m := ⟨rfl, rfl, rfl, rfl⟩

theorem SameModule.trans {m m' m'' : LoadedModule} (h : SameModule m m') (h' : SameModule m' m'') :
    SameModule m m'' :=
  ⟨h'.name.trans h.name, h'.file.trans h.file, h'.folders.trans h.folders,
    h'.version.trans h.version⟩

theorem Ran.refl (w : World) : w.Ran t own [] w [] where
  classes := (List.append_nil _).symm
  ownPaths _ _ := rfl
  others _ hc := (List.not_mem_nil hc).elim
  current _ _ h := h
  modules _ m h := ⟨m, h, SameModule.refl m⟩
  names _ m h _ _ := ⟨m, h, rfl⟩
  found _ _ h := .inl h
  unversioned i m hi hm := by
    have hlt := (Array.getElem?_eq_some_iff.mp hm).1
    omega
  logged _ i m _ hi hm _ := by
    have hlt := (Array.getElem?_eq_some_iff.mp hm).1
    omega

theorem Ran.size_le (h : Ran t own paths w w' made) : w.modules.size ≤ w'.modules.size := by
  by_cases hzero : w.modules.size = 0
  · omega
  · have hlt : w.modules.size - 1 < w.modules.size := by omega
    obtain ⟨m', hm', -⟩ := h.modules _ _ (Array.getElem?_eq_getElem hlt)
    have hlt' := (Array.getElem?_eq_some_iff.mp hm').1
    omega

theorem Ran.finds (h : Ran t own paths w w' made) (hm : w.Finds module) : w'.Finds module := by
  obtain ⟨i, m, hi, hmodule, rfl⟩ := hm
  obtain ⟨m', hm', hsame⟩ := h.modules i m hmodule
  exact ⟨i, m', h.current _ i hi, hm', hsame.name⟩

/-- The names of the modules that were there before are at the beginning. -/
theorem Ran.names_prefix (h : Ran t own paths w w' made) :
    w.modules.toList.map LoadedModule.name <+: w'.modules.toList.map LoadedModule.name := by
  refine List.prefix_iff_getElem?.mpr fun i hi => ?_
  rw [List.length_map, Array.length_toList] at hi
  obtain ⟨m', hm', hsame⟩ := h.modules i _ (Array.getElem?_eq_getElem hi)
  simp [hm', hsame.name]

theorem Ran.nodup (h : Ran t own paths w w' made)
    (hnodup : (w'.modules.toList.map LoadedModule.name).Nodup) :
    (w.modules.toList.map LoadedModule.name).Nodup :=
  h.names_prefix.sublist.nodup hnodup

theorem eq_of_nodup (hnodup : (w.modules.toList.map LoadedModule.name).Nodup) {i j : Nat}
    {m m' : LoadedModule} (hi : w.modules[i]? = some m) (hj : w.modules[j]? = some m')
    (h : m.name = m'.name) : i = j := by
  obtain ⟨hlt, rfl⟩ := Array.getElem?_eq_some_iff.mp hi
  obtain ⟨hlt', rfl⟩ := Array.getElem?_eq_some_iff.mp hj
  have hi' : i < (w.modules.toList.map LoadedModule.name).length := by simpa using hlt
  have hj' : j < (w.modules.toList.map LoadedModule.name).length := by simpa using hlt'
  have hsame : (w.modules.toList.map LoadedModule.name)[i] =
      (w.modules.toList.map LoadedModule.name)[j] := by simpa using h
  exact hnodup.getElem_inj_iff.mp hsame

/-- Every class of a run is a class of the module itself or of a new module. -/
theorem Ran.module_of_made (h : Ran t own paths w w' made) (hown : ∀ module ∈ own, w.Finds module)
    {c : ClassInfo} (hc : c ∈ made) :
    ∃ i m, w'.modules[i]? = some m ∧ m.name = c.module ∧ (c.module ∈ own ∨ w.modules.size ≤ i) := by
  by_cases hmem : c.module ∈ own
  · obtain ⟨i, m, -, hm, hname⟩ := h.finds (hown _ hmem)
    exact ⟨i, m, hm, hname, .inl hmem⟩
  · obtain ⟨-, i, m, hi, hm, hname, -⟩ := h.others c hc hmem
    exact ⟨i, m, hm, hname, .inr hi⟩

theorem Ran.trans (hown : ∀ module ∈ own, w.Finds module) (h : Ran t own paths w w' made)
    (h' : Ran t own paths' w' w'' made') :
    Ran t own (paths ++ paths') w w'' (made ++ made') where
  classes := by rw [h'.classes, h.classes, List.append_assoc]
  ownPaths module hm := by rw [pathsIn_append, h.ownPaths module hm, h'.ownPaths module hm]
  others c hc hmem := by
    rcases List.mem_append.mp hc with hc | hc
    · obtain ⟨hnone, i, m, hi, hm, hname, hfile⟩ := h.others c hc hmem
      obtain ⟨m', hm', hsame⟩ := h'.modules i m hm
      exact ⟨hnone, i, m', hi, hm', hsame.name.trans hname, by rw [hsame.file, hfile]⟩
    · obtain ⟨hnone, i, m, hi, hm, hname⟩ := h'.others c hc hmem
      refine ⟨?_, i, m, Nat.le_trans h.size_le hi, hm, hname⟩
      rcases hlookup : w.current.lookup c.module with _ | j
      · rfl
      · rw [h.current _ _ hlookup] at hnone
        cases hnone
  current module i hi := h'.current _ _ (h.current _ _ hi)
  modules i m hm := by
    obtain ⟨m', hm', hsame⟩ := h.modules i m hm
    obtain ⟨m'', hm'', hsame'⟩ := h'.modules i m' hm'
    exact ⟨m'', hm'', hsame.trans hsame'⟩
  names i m hm hfolders hother := by
    obtain ⟨m', hm', hnames⟩ := h.names i m hm hfolders hother
    obtain ⟨m₁, hm₁, hsame⟩ := h.modules i m hm
    obtain rfl : m' = m₁ := Option.some.inj (hm'.symm.trans hm₁)
    have hother' : ∀ module ∈ own, w'.current.lookup module ≠ some i := by
      intro module hmem hi
      obtain ⟨j, -, hj, -, -⟩ := hown module hmem
      rw [h.current _ _ hj] at hi
      cases hi
      exact hother module hmem hj
    obtain ⟨m'', hm'', hnames'⟩ := h'.names i m' hm' (hsame.folders.trans hfolders) hother'
    exact ⟨m'', hm'', hnames'.trans hnames⟩
  found module i hi := by
    rcases h'.found module i hi with hi | ⟨hle, hm⟩
    · rcases h.found module i hi with hi | ⟨hle, m, hm, hname⟩
      · exact .inl hi
      · obtain ⟨m', hm', hsame⟩ := h'.modules i m hm
        exact .inr ⟨hle, m', hm', hsame.name.trans hname⟩
    · exact .inr ⟨Nat.le_trans h.size_le hle, hm⟩
  unversioned i m hi hm := by
    by_cases hlt : i < w'.modules.size
    · obtain ⟨m', hm', hsame⟩ := h'.modules i _ (Array.getElem?_eq_getElem hlt)
      obtain rfl : m = m' := Option.some.inj (hm.symm.trans hm')
      exact hsame.version.trans (h.unversioned i _ hi (Array.getElem?_eq_getElem hlt))
    · exact h'.unversioned i m (by omega) hm
  logged hnodup i m f hi hm hf := by
    have hown' : ∀ module ∈ own, w'.Finds module := fun module hmem => h.finds (hown module hmem)
    rw [pathsIn_append]
    by_cases hlt : i < w'.modules.size
    · -- the module is new in the first run, so the second one makes no class of it
      obtain ⟨m', hm', hsame⟩ := h'.modules i _ (Array.getElem?_eq_getElem hlt)
      obtain rfl : m = m' := Option.some.inj (hm.symm.trans hm')
      obtain ⟨p, hp, hprefix⟩ := h.logged (h'.nodup hnodup) i _ f hi
        (Array.getElem?_eq_getElem hlt) (hsame.file.symm.trans hf)
      refine ⟨p, hp, ?_⟩
      have hnone : pathsIn m.name made' = [] := by
        refine pathsIn_eq_nil fun c hc hname => ?_
        by_cases hmem : c.module ∈ own
        · obtain ⟨j, n, -, hn, hnname⟩ := hown _ hmem
          obtain ⟨n₁, hn₁, hsame₁⟩ := h.modules j n hn
          obtain ⟨n₂, hn₂, hsame₂⟩ := h'.modules j n₁ hn₁
          have hij := eq_of_nodup hnodup hm hn₂
            (hname.symm.trans ((hsame₂.name.trans hsame₁.name).trans hnname).symm)
          have hjlt := (Array.getElem?_eq_some_iff.mp hn).1
          omega
        · obtain ⟨-, j, n, hj, hn, hnname, -⟩ := h'.others c hc hmem
          have hij := eq_of_nodup hnodup hm hn (hname.symm.trans hnname.symm)
          omega
      rw [hnone, List.append_nil, hsame.name]
      exact hprefix
    · -- the module is new in the second run, so the first one has made no class of it
      obtain ⟨p, hp, hprefix⟩ := h'.logged hnodup i m f (by omega) hm hf
      have hnone : pathsIn m.name made = [] := by
        refine pathsIn_eq_nil fun c hc hname => ?_
        obtain ⟨j, n, hn, hnname, -⟩ := h.module_of_made hown hc
        obtain ⟨n', hn', hsame⟩ := h'.modules j n hn
        have hij := eq_of_nodup hnodup hm hn'
          (hname.symm.trans (hsame.name.trans hnname).symm)
        have hjlt := (Array.getElem?_eq_some_iff.mp hn).1
        omega
      exact ⟨p, hp, by rw [hnone, List.nil_append]; exact hprefix⟩

end World

end Annotation

end TypeProjection
