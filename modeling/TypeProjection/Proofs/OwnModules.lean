import TypeProjection.Proofs.LoadedFiles

/-!
# Files with modules of their own

Source files whose module names differ keep apart: loading one of them forgets and changes no module
of another. So the module that a file gave is found by the file's name to the end, with the names
that running the file bound, and texts in its classes are read among these names.
-/

namespace TypeProjection

open Annotation
open Definition (run_bind run_bind_ok)

/-! Places that are loaded. -/

/-- Those places that have not been loaded yet, each once. -/
def newPlaces (done : List Place) : List Place → List Place
  | [] => []
  | p :: rest => if done.contains p then newPlaces done rest else p :: newPlaces (done ++ [p]) rest

/-- The source files that are loaded for inputs, in order. -/
def FileTree.loadedPlaces (t : FileTree) (inputs : List String) : List Place :=
  newPlaces [] (inputs.flatMap fun input => t.collect [input])

theorem newPlaces_append (done ps qs : List Place) :
    newPlaces done (ps ++ qs) = newPlaces done ps ++ newPlaces (done ++ newPlaces done ps) qs := by
  induction ps generalizing done with
  | nil => rw [List.nil_append, newPlaces, List.nil_append, List.append_nil]
  | cons p ps ih =>
    rw [List.cons_append, newPlaces, newPlaces]
    split
    · exact ih done
    · rw [ih, List.cons_append, List.append_assoc, List.singleton_append]

theorem mem_of_mem_newPlaces {done ps : List Place} {p : Place} (h : p ∈ newPlaces done ps) :
    p ∈ ps := by
  induction ps generalizing done with
  | nil => exact h
  | cons q ps ih =>
    rw [newPlaces] at h
    split at h
    · exact List.mem_cons_of_mem _ (ih h)
    · rcases List.mem_cons.mp h with rfl | h
      · exact List.mem_cons_self ..
      · exact List.mem_cons_of_mem _ (ih h)

namespace Annotation.World

variable {t : FileTree} {p : Place} {module : String} {names names' : List String}
  {w w' w'' : World} {i : Nat}

/-! Worlds in which modules have been loaded. -/

/-- Every name leads to a module. -/
def Indexed (w : World) : Prop := ∀ module i, w.current.lookup module = some i → i < w.modules.size

/-- Loading the modules of some names leaves all others as they are, and gives versions to no
others. -/
structure Loads (names : List String) (w w' : World) : Prop where
  classes : w.classes.toList <+: w'.classes.toList
  current : ∀ module i, module ∉ names → w.current.lookup module = some i →
    w'.current.lookup module = some i
  modules : ∀ (i : Nat) m, w.modules[i]? = some m → m.folders = none →
    ∃ m', w'.modules[i]? = some m' ∧ SameModule m m' ∧ m'.names = m.names
  versions : ∀ module m, w'.loaded? module = some m → m.version.isSome = true → module ∈ names ∨
    ∃ m₀, w.loaded? module = some m₀ ∧ m₀.version.isSome = true
  indexed : w.Indexed → w'.Indexed

theorem Loads.refl (names : List String) (w : World) : w.Loads names w :=
  ⟨List.prefix_refl _, fun _ _ _ h => h, fun _ m h _ => ⟨m, h, SameModule.refl m, rfl⟩,
    fun _ m h hv => .inr ⟨m, h, hv⟩, id⟩

theorem Loads.trans (h : Loads names w w') (h' : Loads names' w' w'') :
    Loads (names ++ names') w w'' where
  classes := h.classes.trans h'.classes
  current module i hn hi := by
    rw [List.mem_append, not_or] at hn
    exact h'.current module i hn.2 (h.current module i hn.1 hi)
  modules i m hm hfolders := by
    obtain ⟨m', hm', hsame, hnames⟩ := h.modules i m hm hfolders
    obtain ⟨m'', hm'', hsame', hnames'⟩ := h'.modules i m' hm' (hsame.folders.trans hfolders)
    exact ⟨m'', hm'', hsame.trans hsame', hnames'.trans hnames⟩
  versions module m hm hv := by
    rcases h'.versions module m hm hv with hn | ⟨m', hm', hv'⟩
    · exact .inl (List.mem_append_right _ hn)
    · exact (h.versions module m' hm' hv').imp_left (List.mem_append_left _)
  indexed hw := h'.indexed (h.indexed hw)

/-- The module of a serial is what running the file at a place as a module gave, and it is found by
its name. -/
structure HoldsFile (t : FileTree) (p : Place) (module : String) (w : World) (i : Nat) : Prop where
  found : w.current.lookup module = some i
  executed : ∃ w₀ w₁ made m, Executed t p module w₀ w₁ made ∧
    w₁.classes.toList <+: w.classes.toList ∧ w.modules[i]? = some m ∧ m.name = module ∧
    m.file = some (SearchPath.absolute p) ∧ m.folders = none ∧ m.names = w₁.namesOf module

theorem HoldsFile.loads (h : HoldsFile t p module w i) (hl : w.Loads names w')
    (hn : module ∉ names) : HoldsFile t p module w' i := by
  obtain ⟨w₀, w₁, made, m, hexecuted, hclasses, hm, hname, hfile, hfolders, hnames⟩ := h.executed
  obtain ⟨m', hm', hsame, hnames'⟩ := hl.modules i m hm hfolders
  exact ⟨hl.current module i hn h.found, w₀, w₁, made, m', hexecuted, hclasses.trans hl.classes, hm',
    hsame.name.trans hname, hsame.file.trans hfile, hsame.folders.trans hfolders,
    hnames'.trans hnames⟩

/-- Texts in classes of the module are read among the names of the module. -/
theorem HoldsFile.scope (h : HoldsFile t p module w i) {c : ClassRef}
    (hc : w.moduleOf c = module) : w.namesOf (w.moduleOf c) = (ModuleHandle.loaded i).names w := by
  obtain ⟨w₀, w₁, made, m, -, -, hm, -⟩ := h.executed
  rw [hc, namesOf_eq h.found hm, ModuleHandle.names, hm]
  rfl

end Annotation.World

namespace Loading

variable {t : FileTree} {s s' : Session} {p : Place} {handle : ModuleHandle} {reload : Bool}
  {done ps : List Place} {inputs : List String}

open Annotation.World (HoldsFile)

/-- A file whose module has no version yet is run, and no module of another name changes. -/
theorem holdsFile_of_loadFile (hp : FileTree.Plain p)
    (hnew : ∀ module m, moduleNameOf? ⟨"/", p⟩ = some module → s.world.loaded? module = some m →
      m.version = none) (hindexed : s.world.Indexed)
    (hrun : (loadFile ⟨"/", p⟩).run.run s = (.ok handle, s')) :
    ∃ module i, moduleNameOf? ⟨"/", p⟩ = some module ∧ handle = .loaded i ∧ s'.tree = s.tree ∧
      s'.world.HoldsFile s.tree p module i ∧ s.world.Loads [module] s'.world := by
  obtain ⟨module, hmodule, htree, ⟨hversion, -, -⟩ | ⟨w, version, hlaunch, hworld, hhandle⟩⟩ :=
    loadFile_ok hp hrun
  · cases hloaded : s.world.loaded? module with
    | none =>
      rw [hloaded] at hversion
      cases hversion
    | some m =>
      rw [hloaded, Option.bind_some, hnew module m hmodule hloaded] at hversion
      cases hversion
  have hforgotten : (s.world.forgetModule module).current.lookup module = none :=
    (current_forgetModule s.world module module).trans (if_pos rfl)
  have hpath : s'.searchPath = ⟨s.tree, s'.folders⟩ := by rw [Session.searchPath, htree]
  rw [hpath] at hlaunch
  obtain ⟨w₁, made, hexecuted, hran, hclasses, hcurrent, m, hm, hsame, hnames⟩ :=
    executed_of_launch hforgotten hlaunch
  have hold : ∀ i m, s.world.modules[i]? = some m → i ≠ s.world.modules.size := fun i m hi =>
    Nat.ne_of_lt (Array.getElem?_eq_some_iff.mp hi).1
  let versioned (m : LoadedModule) : LoadedModule := { m with version := version }
  have hchanged : s'.world =
      { w with modules := w.modules.modify s.world.modules.size versioned } := by
    rw [hworld, World.changeModule, hcurrent]
    rfl
  have hget : ∀ i, s'.world.modules[i]? =
      if s.world.modules.size = i then w.modules[i]?.map versioned else w.modules[i]? := by
    intro i
    rw [hchanged, Array.getElem?_modify]
  have hfound : s'.world.current.lookup module = some s.world.modules.size := by
    rw [hchanged]
    exact hcurrent
  have hsize : s'.world.modules[s.world.modules.size]? = some (versioned m) := by
    rw [hget, if_pos rfl, show w.modules[s.world.modules.size]? = some m from hm, Option.map_some]
  refine ⟨module, s.world.modules.size, hmodule, ?_, htree, ⟨hfound, _, w₁, made, _, hexecuted, ?_,
    hsize, hsame.name, hsame.file, hsame.folders, hnames⟩, ?_⟩
  · obtain ⟨-, hhandle⟩ := handleOf_ok hhandle
    rw [hhandle, hfound]
  · rw [hchanged]
    exact (congrArg Array.toList hclasses) ▸ List.prefix_refl _
  · constructor
    · rw [hchanged]
      exact ⟨made, hran.classes.symm⟩
    · intro n i hn hi
      rw [List.mem_singleton] at hn
      rw [hchanged]
      exact hran.current n i (by rw [current_forgetModule, if_neg hn, hi])
    · intro i n hi hfolders
      obtain ⟨n', hn', hsame'⟩ := hran.modules i n hi
      obtain ⟨n₁, hn₁, hnames'⟩ := hran.names i n hi hfolders (fun _ h => by cases h)
      obtain rfl : n' = n₁ := Option.some.inj (hn'.symm.trans hn₁)
      exact ⟨n', by rw [hget, if_neg (hold i n hi).symm, hn'], hsame', hnames'⟩
    · intro n e he hv
      by_cases hn : n = module
      · exact .inl (List.mem_singleton.mpr hn)
      obtain ⟨i, hi, he⟩ := Option.bind_eq_some_iff.mp he
      rw [hchanged] at hi
      rcases hran.found n i hi with hi | ⟨hle, e', he', hname⟩
      · rw [current_forgetModule, if_neg hn] at hi
        have hlt := hindexed n i hi
        obtain ⟨e', he', hsame'⟩ := hran.modules i _ (Array.getElem?_eq_getElem hlt)
        rw [hget, if_neg (Nat.ne_of_gt hlt), he'] at he
        obtain rfl := Option.some.inj he
        refine .inr ⟨_, Option.bind_eq_some_iff.mpr ⟨i, hi, Array.getElem?_eq_getElem hlt⟩, ?_⟩
        rw [← hsame'.version]
        exact hv
      · -- a new module other than this one has no version
        have hne : s.world.modules.size ≠ i := by
          rintro rfl
          obtain rfl : m = e' := Option.some.inj (hm.symm.trans he')
          exact hn (hname.symm.trans hsame.name)
        rw [hget, if_neg hne, he'] at he
        obtain rfl := Option.some.inj he
        rw [hran.unversioned i _ hle he'] at hv
        cases hv
    · intro _ n i hi
      rw [hchanged] at hi ⊢
      change i < (w.modules.modify _ _).size
      rw [Array.size_modify]
      rcases hran.found n i hi with hi | ⟨-, e', he', -⟩
      · rw [current_forgetModule] at hi
        split at hi
        · cases hi
        · exact Nat.lt_of_lt_of_le (hindexed n i hi) hran.size_le
      · exact (Array.getElem?_eq_some_iff.mp he').1

/-- The names of the modules that files give. -/
def namesOf (ps : List Place) : List String := ps.filterMap fun p => moduleNameOf? ⟨"/", p⟩

/-- The files make modules of different names. -/
def Apart (ps : List Place) : Prop :=
  ps.Pairwise fun p q => moduleNameOf? ⟨"/", p⟩ ≠ moduleNameOf? ⟨"/", q⟩

/-- No file has been loaded yet under a name that one of the files has. -/
def Unloaded (w : World) (ps : List Place) : Prop :=
  ∀ module ∈ namesOf ps, ∀ m, w.loaded? module = some m → m.version = none

/-- The module that a file gave. -/
def Gave (t : FileTree) (w : World) (p : Place) (m : InputModule) : Prop :=
  ∃ module i, moduleNameOf? ⟨"/", p⟩ = some module ∧ m = ⟨.loaded i, []⟩ ∧ w.HoldsFile t p module i

/-- What loading files one after another leaves. -/
structure Gives (s s' : Session) (ps : List Place) (modules : List InputModule) : Prop where
  tree : s'.tree = s.tree
  modules : List.Forall₂ (Gave s.tree s'.world) ps modules
  loads : s.world.Loads (namesOf ps) s'.world

variable {module : String} {modules modules' : List InputModule} {qs : List Place} {s'' : Session}

theorem mem_namesOf (hp : p ∈ ps) (hmodule : moduleNameOf? ⟨"/", p⟩ = some module) :
    module ∈ namesOf ps := List.mem_filterMap.mpr ⟨p, hp, hmodule⟩

theorem Gives.unloaded (h : Gives s s' ps modules) (hapart : Apart (ps ++ qs))
    (hnew : Unloaded s.world (ps ++ qs)) : Unloaded s'.world qs := by
  intro module hmem m hm
  obtain ⟨q, hq, hmodule⟩ := List.mem_filterMap.mp hmem
  by_cases hv : m.version.isSome = true
  · rcases h.loads.versions module m hm hv with hin | ⟨m₀, hm₀, hv₀⟩
    · obtain ⟨p, hp, hp'⟩ := List.mem_filterMap.mp hin
      exact (hapart.rel_of_mem_append hp hq (hp'.trans hmodule.symm)).elim
    · rw [hnew module (mem_namesOf (List.mem_append_right _ hq) hmodule) m₀ hm₀] at hv₀
      cases hv₀
  · exact Option.not_isSome_iff_eq_none.mp hv

theorem Gives.append (h : Gives s s' ps modules) (h' : Gives s' s'' qs modules')
    (hapart : Apart (ps ++ qs)) : Gives s s'' (ps ++ qs) (modules ++ modules') where
  tree := h'.tree.trans h.tree
  modules := by
    have hkept : List.Forall₂ (Gave s.tree s''.world) ps modules := by
      refine (List.forall₂_iff_get.mpr ⟨h.modules.length_eq, fun i hi hi' => ?_⟩)
      obtain ⟨module, j, hmodule, hm, hholds⟩ := (List.forall₂_iff_get.mp h.modules).2 i hi hi'
      refine ⟨module, j, hmodule, hm, hholds.loads h'.loads fun hmem => ?_⟩
      obtain ⟨q, hq, hq'⟩ := List.mem_filterMap.mp hmem
      exact hapart.rel_of_mem_append (List.get_mem ps ⟨i, hi⟩) hq (hmodule.trans hq'.symm)
    have hnew := h'.modules
    rw [h.tree] at hnew
    exact List.rel_append hkept hnew
  loads := by
    rw [namesOf, List.filterMap_append]
    exact h.loads.trans h'.loads

theorem gives_loadFiles {done' : List Place} (hplain : ∀ p ∈ ps, FileTree.Plain p)
    (hapart : Apart (newPlaces done ps)) (hnew : Unloaded s.world (newPlaces done ps))
    (hindexed : s.world.Indexed)
    (hrun : (loadFiles done ps).run.run s = (.ok (done', modules), s')) :
    done' = done ++ newPlaces done ps ∧ Gives s s' (newPlaces done ps) modules := by
  induction ps generalizing done s modules with
  | nil =>
    cases hrun
    exact ⟨(List.append_nil _).symm, rfl, .nil, .refl _ _⟩
  | cons p ps ih =>
    have hrest : ∀ q ∈ ps, FileTree.Plain q := fun q hq => hplain q (List.mem_cons_of_mem _ hq)
    rw [loadFiles] at hrun
    rw [newPlaces] at hapart hnew ⊢
    split at hrun
    · next hdone =>
      rw [if_pos hdone] at hapart hnew ⊢
      exact ih hrest hapart hnew hindexed hrun
    · next hdone =>
      rw [if_neg hdone] at hapart hnew ⊢
      obtain ⟨h, s₁, hload, hrun⟩ := run_bind_ok.mp hrun
      obtain ⟨⟨done₁, more⟩, s₂, hfiles, hrun⟩ := run_bind_ok.mp hrun
      cases hrun
      obtain ⟨module, i, hmodule, rfl, htree, hholds, hloads⟩ :=
        holdsFile_of_loadFile (hplain p (List.mem_cons_self ..)) (fun module m hmodule hm =>
          hnew module (mem_namesOf (List.mem_cons_self ..) hmodule) m hm) hindexed hload
      have hname : namesOf [p] = [module] := by simp [namesOf, hmodule]
      have hone : Gives s s₁ [p] [⟨.loaded i, []⟩] :=
        ⟨htree, .cons ⟨module, i, hmodule, rfl, hholds⟩ .nil, hname ▸ hloads⟩
      obtain ⟨rfl, hmore⟩ := ih hrest (List.Pairwise.of_cons hapart)
        (Gives.unloaded hone hapart hnew) (hloads.indexed hindexed) hfiles
      exact ⟨by rw [List.append_assoc, List.singleton_append], hone.append hmore hapart⟩

theorem gives_loadFrom (hhome : FileTree.Plain s.tree.home)
    (hpaths : ∀ input ∈ inputs, s.tree.looksLikePath input = true)
    (hapart : Apart (newPlaces done (inputs.flatMap fun input => s.tree.collect [input])))
    (hnew : Unloaded s.world (newPlaces done (inputs.flatMap fun input => s.tree.collect [input])))
    (hindexed : s.world.Indexed)
    (hrun : (loadFrom reload done inputs).run.run s = (.ok modules, s')) :
    Gives s s' (newPlaces done (inputs.flatMap fun input => s.tree.collect [input])) modules := by
  induction inputs generalizing done s modules with
  | nil =>
    cases hrun
    exact ⟨rfl, .nil, .refl _ _⟩
  | cons input rest ih =>
    have hget : (get : Loading Session).run.run s = (.ok s, s) := rfl
    rw [List.flatMap_cons, newPlaces_append] at hapart hnew ⊢
    rw [loadFrom, run_bind, hget] at hrun
    dsimp only at hrun
    split at hrun
    · cases hrun
    rw [if_pos (hpaths input (List.mem_cons_self ..))] at hrun
    split at hrun
    · cases hrun
    obtain ⟨⟨done₁, modules₁⟩, s₁, hfiles, hrun⟩ := run_bind_ok.mp hrun
    obtain ⟨modules₂, s₂, hmore, hrun⟩ := run_bind_ok.mp hrun
    cases hrun
    obtain ⟨rfl, hfirst⟩ := gives_loadFiles (fun p hp => FileTree.plain_of_mem_collect hhome hp)
      (List.pairwise_append.mp hapart).1
      (fun module hm => hnew module (by
        rw [namesOf, List.filterMap_append]
        exact List.mem_append_left _ hm)) hindexed hfiles
    have htree := hfirst.tree
    have hsecond := ih (s := s₁) (by rw [htree]; exact hhome)
      (fun x hx => by rw [htree]; exact hpaths x (List.mem_cons_of_mem _ hx))
      (by rw [htree]; exact (List.pairwise_append.mp hapart).2.1)
      (by rw [htree]; exact hfirst.unloaded hapart hnew) (hfirst.loads.indexed hindexed) hmore
    rw [htree] at hsecond
    exact hfirst.append hsecond hapart

/-- A file has a module of its own: it is found by the file's name, it has the names that running
the file bound, and texts in its classes are read among these names. -/
def HasOwn (t : FileTree) (w : World) (p : Place) (m : InputModule) : Prop :=
  ∃ module i, moduleNameOf? ⟨"/", p⟩ = some module ∧ m = ⟨.loaded i, []⟩ ∧
    w.HoldsFile t p module i ∧
    ∀ c, w.moduleOf c = module → w.namesOf (w.moduleOf c) = m.handle.names w

/-- Where the module names of the files differ, each file gives a module of its own, whatever the
files import from each other and whichever versions they have. -/
theorem modules_of_own_files (hhome : FileTree.Plain t.home)
    (hpaths : ∀ input ∈ inputs, t.looksLikePath input = true)
    (hapart : Apart (t.loadedPlaces inputs))
    (hrun : (loadInputs reload inputs).run.run (Session.fresh t) = (.ok modules, s)) :
    List.Forall₂ (HasOwn t s.world) (t.loadedPlaces inputs) modules := by
  have hnone : ∀ module, (Session.fresh t).world.loaded? module = none := fun _ => rfl
  have hgives := gives_loadFrom (s := Session.fresh t) hhome hpaths hapart
    (fun module _ m hm => by rw [hnone] at hm; cases hm) (fun _ _ h => by cases h) hrun
  refine hgives.modules.imp fun p m hgave => ?_
  obtain ⟨module, i, hmodule, rfl, hholds⟩ := hgave
  exact ⟨module, i, hmodule, rfl, hholds, fun c hc => hholds.scope hc⟩

/-- Two files with classes of the same name; texts name the class of their own file. -/
def twoPoints : FileTree :=
  ((FileTree.empty ["work"]).write ["work", "flat.py"] (.definitions ⟨true, [
      .cls (.mk "Point" [] [] "" [.field "x" "int" none]),
      .cls (.mk "Line" [] [] "" [.field "start" "Point" none])]⟩)).write
    ["work", "solid.py"] (.definitions ⟨true, [
      .imports "flat" ["Line"],
      .cls (.mk "Point" [] [] "" [.field "z" "int" none]),
      .cls (.mk "Edge" ["Line"] [] "" [.field "end" "Point" none])]⟩)

/-- Both files are loaded, the later one first. -/
def twoPointsLoaded : Except InputFault (List InputModule) × Session :=
  (loadInputs false ["solid.py", "flat.py"]).run.run (Session.fresh twoPoints)

theorem modules_of_own_files_points :
    ∃ modules s, (loadInputs false ["solid.py", "flat.py"]).run.run (Session.fresh twoPoints) =
        (.ok modules, s) ∧
      twoPoints.loadedPlaces ["solid.py", "flat.py"] = [["work", "solid.py"], ["work", "flat.py"]] ∧
      List.Forall₂ (HasOwn twoPoints s.world) (twoPoints.loadedPlaces ["solid.py", "flat.py"])
        modules := by
  have hok : twoPointsLoaded.1.toOption = some [⟨.loaded 0, []⟩, ⟨.loaded 2, []⟩] := by
    decide +kernel
  have hpaths : ∀ input ∈ ["solid.py", "flat.py"], twoPoints.looksLikePath input = true := by
    decide
  have hplaces : twoPoints.loadedPlaces ["solid.py", "flat.py"] =
      [["work", "solid.py"], ["work", "flat.py"]] := by decide
  have hapart : Apart (twoPoints.loadedPlaces ["solid.py", "flat.py"]) := by
    unfold Apart
    decide
  have hrun := eq_ok_of_toOption hok
  have hhome : FileTree.Plain twoPoints.home := by
    unfold FileTree.Plain
    decide
  exact ⟨_, _, hrun, hplaces, modules_of_own_files hhome hpaths hapart hrun⟩

/-- Two files whose paths differ in a character that no name can have. -/
def alikePaths : FileTree :=
  ((FileTree.empty ["work"]).write ["work", "a", "b.py"] (.definitions ⟨true, [
      .cls (.mk "P" [] [] "" [.field "x" "int" none]),
      .cls (.mk "Q" [] [] "" [.field "p" "P" none])]⟩)).write
    ["work", "a_b.py"] (.definitions ⟨false, [.cls (.mk "R" [] [] "" [.field "x" "int" none])]⟩)

/-- Both files are loaded. -/
def alikePathsLoaded : Except InputFault (List InputModule) × Session :=
  (loadInputs false ["a/b.py", "a_b.py"]).run.run (Session.fresh alikePaths)

/-- Files can take each other's modules away: texts in the classes of the first file are then read
among the names of the second one. -/
theorem modules_not_always_own :
    ¬ ∀ (t : FileTree) (inputs : List String) (modules : List InputModule) (s : Session),
      FileTree.Plain t.home → (∀ input ∈ inputs, t.looksLikePath input = true) →
      (loadInputs false inputs).run.run (Session.fresh t) = (.ok modules, s) →
      List.Forall₂ (HasOwn t s.world) (t.loadedPlaces inputs) modules := by
  intro hall
  have hok : alikePathsLoaded.1.toOption = some [⟨.loaded 0, []⟩, ⟨.loaded 1, []⟩] := by
    decide +kernel
  have hpaths : ∀ input ∈ ["a/b.py", "a_b.py"], alikePaths.looksLikePath input = true := by
    decide
  have hplaces : alikePaths.loadedPlaces ["a/b.py", "a_b.py"] =
      [["work", "a", "b.py"], ["work", "a_b.py"]] := by decide
  have hhome : FileTree.Plain alikePaths.home := by
    unfold FileTree.Plain
    decide
  have hrun := eq_ok_of_toOption hok
  have hmodules := hall alikePaths ["a/b.py", "a_b.py"] _ _ hhome hpaths hrun
  rw [hplaces] at hmodules
  cases hmodules with
  | cons hfirst _ =>
    obtain ⟨module, i, hmodule, hm, hholds, -⟩ := hfirst
    have hname : moduleNameOf? ⟨"/", ["work", "a", "b.py"]⟩ = some "_tsgen_input__work_a_b" := by
      decide
    have hfound : alikePathsLoaded.2.world.current.lookup "_tsgen_input__work_a_b" = some 1 := by
      decide +kernel
    obtain rfl : module = "_tsgen_input__work_a_b" := Option.some.inj (hmodule.symm.trans hname)
    have hi : i = 1 := Option.some.inj (hholds.found.symm.trans hfound)
    rw [hi] at hm
    cases hm

end Loading

end TypeProjection
