import TypeProjection.Proofs.ModuleLabels
import TypeProjection.Proofs.WordMaps

/-!
# Inputs in order

An input stands for source files in path order, or for a module. Inputs load what they stand for one
after another, every file at its first occurrence, and they fail only because of an input that is
refused by itself. So more inputs load what is left of their own behind the files of the first ones.
-/

namespace TypeProjection

open Annotation
open Definition (run_bind run_bind_ok)

/-! What an input stands for. -/

namespace Path

variable {p q r : Path}

/-- The paths are in order. -/
def InOrder (ps : List Path) : Prop := ps.Pairwise fun p q => q.before p = false

theorem not_before_trans (h : q.before p = false) (h' : r.before q = false) :
    r.before p = false := by
  rw [before, decide_eq_false_iff_not] at h h' ⊢
  exact List.not_lt.mpr (List.le_trans (List.not_lt.mp h) (List.not_lt.mp h'))

theorem not_before_total (p q : Path) : q.before p = false ∨ p.before q = false := by
  rw [before, before, decide_eq_false_iff_not, decide_eq_false_iff_not]
  exact (List.le_total _ _).imp List.not_lt.mpr List.not_lt.mpr

end Path

namespace FileTree

variable {t : FileTree} {input : String} {inputs : List String} {ps : List Path} {p : Path}

theorem mem_sorted : p ∈ sorted ps ↔ p ∈ ps := List.mem_mergeSort

theorem inOrder_sorted (ps : List Path) : Path.InOrder (sorted ps) := by
  refine (List.pairwise_mergeSort (fun p q r hp hq => ?_) (fun p q => ?_) ps).imp
    fun h => (Bool.not_eq_true' _).mp h
  · rw [Bool.not_eq_true'] at hp hq ⊢
    exact Path.not_before_trans hp hq
  · rw [Bool.or_eq_true, Bool.not_eq_true', Bool.not_eq_true']
    exact Path.not_before_total p q

/-- Names lead from a place to a source file, at any depth. -/
def HasSource (t : FileTree) (place : Place) (names : List String) : Prop :=
  ∃ node n, (names, node) ∈ t.below place ∧ names.getLast? = some n ∧
    sourceSuffix.toList <:+ n.toList

/-- The source files that an input stands for: those below a folder, the source file itself, or else
the source files among the paths that a pattern stands for, in path order. -/
inductive Means (t : FileTree) (input : String) : List Path → Prop
  | folder (place : Place) (ps : List Path) :
    t.place? (Path.ofText input) = some place → t.isFolderAt place = true → Path.InOrder ps →
    (∀ q, q ∈ ps ↔ ∃ names, t.HasSource place names ∧ q = (Path.ofText input).join ⟨"", names⟩) →
    Means t input ps
  | source : t.isFile (Path.ofText input) = true → (Path.ofText input).suffix = sourceSuffix →
    Means t input [Path.ofText input]
  | pattern (ps : List Path) : t.isFolder (Path.ofText input) = false →
    ¬ (t.isFile (Path.ofText input) = true ∧ (Path.ofText input).suffix = sourceSuffix) →
    Path.InOrder ps → (∀ q, q ∈ ps ↔ q ∈ t.expand input ∧ q.suffix = sourceSuffix) →
    Means t input ps

theorem means_sourcesOf (t : FileTree) (input : String) : t.Means input (t.sourcesOf input) := by
  unfold sourcesOf
  dsimp only
  split
  · next hfolder =>
    cases hplace : t.place? (Path.ofText input) with
    | none =>
      rw [isFolder, hplace] at hfolder
      cases hfolder
    | some place =>
      rw [isFolder, hplace] at hfolder
      rw [sourcesBelow, hplace]
      refine .folder place _ hplace hfolder (inOrder_sorted _) fun q => ?_
      rw [mem_sorted, List.mem_map]
      refine ⟨?_, ?_⟩
      · rintro ⟨⟨names, node⟩, hmem, rfl⟩
        obtain ⟨hbelow, hsuffix⟩ := List.mem_filter.mp hmem
        dsimp only at hsuffix
        split at hsuffix
        · next n hlast =>
          rw [Text.startsWith_eq, List.reverse_prefix] at hsuffix
          exact ⟨names, ⟨node, n, hbelow, hlast, hsuffix⟩, rfl⟩
        · cases hsuffix
      · rintro ⟨names, ⟨node, n, hbelow, hlast, hsuffix⟩, rfl⟩
        refine ⟨(names, node), List.mem_filter.mpr ⟨hbelow, ?_⟩, rfl⟩
        dsimp only
        rw [hlast]
        dsimp only
        rwa [Text.startsWith_eq, List.reverse_prefix]
  · next hfolder =>
    split
    · next hsource =>
      rw [Bool.and_eq_true, beq_iff_eq] at hsource
      exact .source hsource.1 hsource.2
    · next hsource =>
      rw [Bool.and_eq_true, beq_iff_eq] at hsource
      refine .pattern _ (Bool.eq_false_iff.mpr hfolder) hsource (inOrder_sorted _) fun q => ?_
      rw [mem_sorted, List.mem_filter, beq_iff_eq]

/-- The source files of inputs, one input after another, with repetitions. -/
def allFiles (t : FileTree) (inputs : List String) : List Place :=
  (inputs.filter t.looksLikePath).flatMap t.filesOf

/-- What is loaded for inputs if none of them is refused. -/
def wanted (t : FileTree) (inputs : List String) : List LoadItem :=
  LoadItem.fresh [] (inputs.flatMap t.itemsOf)

theorem places_flatMap_itemsOf : LoadItem.places (inputs.flatMap t.itemsOf) = t.allFiles inputs := by
  induction inputs with
  | nil => rfl
  | cons input rest ih =>
    rw [List.flatMap_cons, LoadItem.places_append, ih, places_itemsOf]
    unfold allFiles
    rw [List.filter_cons]
    split
    · rfl
    · rfl

/-- The files that are loaded are the first occurrences of all files. -/
theorem places_wanted : LoadItem.places (t.wanted inputs) = distinct (t.allFiles inputs) := by
  rw [wanted, LoadItem.places_fresh, newPlaces_nil, places_flatMap_itemsOf]

theorem wanted_append (t : FileTree) (inputs more : List String) : t.wanted (inputs ++ more) =
    t.wanted inputs ++ LoadItem.fresh (LoadItem.places (t.wanted inputs)) (more.flatMap t.itemsOf) := by
  rw [wanted, List.flatMap_append, LoadItem.fresh_append, List.nil_append, wanted,
    LoadItem.places_fresh]

/-- More inputs load those of their files that the first ones do not have. -/
theorem places_wanted_append (t : FileTree) (inputs more : List String) :
    LoadItem.places (t.wanted (inputs ++ more)) = LoadItem.places (t.wanted inputs) ++
      (LoadItem.places (t.wanted more)).filter fun p =>
        !(LoadItem.places (t.wanted inputs)).contains p := by
  rw [wanted_append, LoadItem.places_append, LoadItem.places_fresh, newPlaces_eq_distinct,
    places_flatMap_itemsOf, ← places_wanted]

theorem plain_of_mem_filesOf (ht : Plain t.home) {q : Place} (h : q ∈ t.filesOf input) : Plain q := by
  obtain ⟨p, -, rfl⟩ := List.mem_map.mp (List.mem_filter.mp h).1
  exact plain_resolve ht p

theorem plain_wanted (ht : Plain t.home) : ∀ p ∈ LoadItem.places (t.wanted inputs), Plain p := by
  intro p hp
  rw [places_wanted] at hp
  obtain ⟨input, -, hp⟩ := List.mem_flatMap.mp (mem_distinct.mp hp)
  exact plain_of_mem_filesOf ht hp

end FileTree

namespace Loading

variable {s s' : Session} {reload : Bool} {inputs : List String} {modules : List InputModule}

theorem run_loadInputs (s : Session) (reload : Bool) (inputs : List String) :
    (loadInputs reload inputs).run.run s =
      (loadItems reload (s.tree.items inputs) (s.tree.firstRefusal? inputs)).run.run s :=
  run_loadFrom rfl

/-- Inputs whose modules all load fail if and only if one of them is refused. -/
theorem run_loadInputs_of_loads
    (h : ((s.tree.items inputs).mapM (load reload)).run.run s = (.ok modules, s')) :
    (loadInputs reload inputs).run.run s =
      ((s.tree.firstRefusal? inputs).elim (.ok modules) .error, s') := by
  rw [run_loadInputs, loadItems, run_bind, h]
  cases s.tree.firstRefusal? inputs <;> rfl

/-- None of the inputs that are loaded is refused, and they give a module for each thing that they
ask for. -/
theorem stands_loadInputs (hhome : FileTree.Plain s.tree.home) (hs : s.world.Labelled)
    (hrun : (loadInputs reload inputs).run.run s = (.ok modules, s')) :
    s.tree.firstRefusal? inputs = none ∧ s'.world.Labelled ∧
      List.Forall₂ (Stands s'.world) (s.tree.wanted inputs) modules := by
  rw [run_loadInputs] at hrun
  obtain ⟨ms, s₁, hloads, hlast⟩ := run_bind_ok.mp hrun
  cases hrefusal : s.tree.firstRefusal? inputs with
  | some f =>
    rw [hrefusal] at hlast
    cases hlast
  | none =>
    rw [hrefusal] at hlast
    cases hlast
    rw [FileTree.items_of_none hrefusal] at hloads
    obtain ⟨hlabels, hstands⟩ := stands_loads hs (FileTree.plain_wanted hhome) hloads
    exact ⟨rfl, hlabels.labelled hs, hstands⟩

/-- A package with a file at each of two depths, and a file beside it. -/
def packagedFiles : FileTree :=
  (((((FileTree.empty ["work"]).write ["work", "pkg", "__init__.py"] (.definitions ⟨false, []⟩)).write
    ["work", "pkg", "a.py"] (.definitions ⟨false, [.cls (.mk "A" [] [] "" [])]⟩)).write
    ["work", "pkg", "sub", "b.py"] (.definitions ⟨false, [.cls (.mk "B" [] [] "" [])]⟩)).write
    ["work", "top.py"] (.definitions ⟨false, [.cls (.mk "T" [] [] "" [])]⟩))

/-- A module, a pattern, a folder with more than the pattern has, and the file of the module. -/
def overlappingInputs : List String := ["top:T", "pkg/*.py", "pkg", "pkg/../top.py"]

/-- What the inputs ask for. -/
def overlappingItems : List LoadItem :=
  [.module "top" ["T"], .file ["work", "pkg", "a.py"], .file ["work", "pkg", "sub", "b.py"],
    .file ["work", "top.py"]]

theorem filesOf_pattern : packagedFiles.filesOf "pkg/*.py" = [["work", "pkg", "a.py"]] := by
  have hfound : ((packagedFiles.expand "pkg/*.py").filter fun q =>
      q.suffix == FileTree.sourceSuffix) =
        [⟨"", ["pkg", "__init__.py"]⟩, ⟨"", ["pkg", "a.py"]⟩] := by decide
  have hsorted : FileTree.sorted [⟨"", ["pkg", "__init__.py"]⟩, ⟨"", ["pkg", "a.py"]⟩] =
      [⟨"", ["pkg", "__init__.py"]⟩, ⟨"", ["pkg", "a.py"]⟩] :=
    List.mergeSort_of_pairwise (by decide +kernel)
  unfold FileTree.filesOf FileTree.sourcesOf
  rw [if_neg (by decide +kernel), if_neg (by decide +kernel), hfound, hsorted]
  decide

theorem filesOf_folder : packagedFiles.filesOf "pkg" =
    [["work", "pkg", "a.py"], ["work", "pkg", "sub", "b.py"]] := by
  have hplace : packagedFiles.place? (Path.ofText "pkg") = some ["work", "pkg"] := by
    rfl
  have hsorted : packagedFiles.sourcesBelow (Path.ofText "pkg") = [⟨"", ["pkg", "__init__.py"]⟩,
      ⟨"", ["pkg", "a.py"]⟩, ⟨"", ["pkg", "sub", "b.py"]⟩] := by
    rw [FileTree.sourcesBelow, hplace]
    exact List.mergeSort_of_pairwise (by decide)
  unfold FileTree.filesOf FileTree.sourcesOf
  rw [if_pos (by decide +kernel), hsorted]
  decide +kernel

theorem wanted_overlapping : packagedFiles.wanted overlappingInputs = overlappingItems := by
  have hitems : overlappingInputs.map packagedFiles.itemsOf = [[.module "top" ["T"]],
      [.file ["work", "pkg", "a.py"]],
      [.file ["work", "pkg", "a.py"], .file ["work", "pkg", "sub", "b.py"]],
      [.file ["work", "top.py"]]] := by
    simp only [overlappingInputs, List.map_cons, List.map_nil, FileTree.itemsOf, filesOf_pattern,
      filesOf_folder]
    decide +kernel
  rw [FileTree.wanted, List.flatMap_def, hitems]
  decide

theorem refusal_overlapping : packagedFiles.firstRefusal? overlappingInputs = none := by
  simp only [FileTree.firstRefusal?, FileTree.refusal?, overlappingInputs,
    List.findSome?_eq_none_iff, List.forall_mem_cons, filesOf_pattern, filesOf_folder]
  decide +kernel

/-- The inputs are loaded. -/
def overlappingLoaded : Except InputFault (List InputModule) × Session :=
  (loadItems false overlappingItems none).run.run (Session.fresh packagedFiles)

end Loading

end TypeProjection
