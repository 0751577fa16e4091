import TypeProjection.Proofs.FoundFiles
import TypeProjection.Proofs.InputFiles
import TypeProjection.Proofs.StockedWorlds
import TypeProjection.Proofs.WordMaps

/-!
# Loading a listed file

A file that inputs list is there, its path ends as that of a source file, and its module has a name.
So loading it has three ends: it is known in its version, it is run as a new module after the one of
its name was forgotten, or it turns out to be a folder.
-/

namespace TypeProjection

open Annotation
open Definition (Run run_bind)

/-! Paths of source files. -/

namespace FileTree

variable {t : FileTree} {p : Place} {inputs : List String} {input : String} {a : Path}

/-- The path ends in a name that ends as those of source files. -/
def EndsInSource (a : Path) : Prop :=
  ∃ names n, a.parts = names ++ [n] ∧ sourceSuffix.toList <:+ n.toList

theorem endsInSource_of_suffix (h : a.suffix = sourceSuffix) : EndsInSource a := by
  obtain ⟨names, n, hparts, -⟩ := namesSource_of_suffix h
  refine ⟨names, n, hparts, ?_⟩
  have hname : a.name = n := by rw [Path.name, hparts, List.getLast?_concat]; rfl
  rw [Path.suffix, hname, Path.cutName] at h
  split at h
  · have hempty : "" = sourceSuffix := h
    exact absurd hempty (by decide)
  · next hcut =>
    have hsplit := List.takeWhile_append_dropWhile (p := (· != '.')) (l := n.toList.reverse)
    generalize hending : n.toList.reverse.takeWhile (· != '.') = ending at h hsplit hcut
    have hletters : ending.reverse = ['p', 'y'] := by
      have hlist := congrArg String.toList h
      have hsource : sourceSuffix.toList = ['.', 'p', 'y'] := by decide
      simp only [String.toList_append, String.toList_ofList, hsource] at hlist
      exact (List.cons.inj hlist).2
    rcases hrest : n.toList.reverse.dropWhile (· != '.') with _ | ⟨c, rest⟩
    · rw [hrest, List.append_nil] at hsplit
      rw [hsplit, List.length_reverse] at hcut
      simp at hcut
    · have hc : c = '.' := by
        have hhead := List.head?_dropWhile_not (· != '.') n.toList.reverse
        rw [hrest] at hhead
        simpa using hhead
      refine ⟨rest.reverse, ?_⟩
      rw [hrest, hc] at hsplit
      rw [← List.reverse_reverse n.toList, ← hsplit, List.reverse_append, hletters,
        List.reverse_cons, List.append_assoc]
      rfl

theorem endsInSource_of_mem_sourcesOf (h : a ∈ t.sourcesOf input) : EndsInSource a := by
  unfold sourcesOf at h
  dsimp only at h
  split at h
  · unfold sourcesBelow at h
    split at h
    · cases h
    · obtain ⟨⟨names, node⟩, he, rfl⟩ := List.mem_map.mp (List.mem_mergeSort.mp h)
      have hsuffix := (List.mem_filter.mp he).2
      dsimp only at hsuffix
      split at hsuffix
      · next n hn =>
        obtain ⟨front, rfl⟩ := List.getLast?_eq_some_iff.mp hn
        rw [Text.startsWith_eq, List.reverse_prefix] at hsuffix
        refine ⟨(Path.ofText input).parts ++ front, n, ?_, hsuffix⟩
        rw [List.append_assoc]
        rfl
      · cases hsuffix
  · split at h
    · next hsource =>
      rw [List.mem_singleton.mp h]
      exact endsInSource_of_suffix (beq_iff_eq.mp (Bool.and_eq_true_iff.mp hsource).2)
    · have hsuffix := (List.mem_filter.mp (List.mem_mergeSort.mp h)).2
      exact endsInSource_of_suffix (beq_iff_eq.mp hsuffix)

/-- Joined names end in the last one. -/
theorem suffix_intercalate (names : List String) (n : String) :
    n.toList <:+ (String.intercalate "/" (names ++ [n])).toList := by
  induction names with
  | nil => exact List.suffix_refl _
  | cons m names ih =>
    have hjoin : (String.intercalate "/" (m :: (names ++ [n]))).toList =
        (m.toList ++ "/".toList) ++ (String.intercalate "/" (names ++ [n])).toList := by
      cases names with
      | nil =>
        rw [List.nil_append, String.intercalate_cons_cons, String.toList_append,
          String.toList_append]
      | cons m' names =>
        rw [List.cons_append, String.intercalate_cons_cons, String.toList_append,
          String.toList_append]
    rw [List.cons_append, hjoin]
    exact ih.trans (List.suffix_append _ _)

/-- The path of a collected file ends as that of a source file. -/
theorem source_of_mem_collect (h : p ∈ t.collect inputs) :
    Text.startsWith (Path.mk "/" p).text.toList.reverse sourceSuffix.toList.reverse = true := by
  obtain ⟨a, ha, rfl⟩ := List.mem_map.mp (List.mem_filter.mp (mem_of_mem_distinct h)).1
  obtain ⟨input, -, hsource⟩ := List.mem_flatMap.mp ha
  obtain ⟨names, n, hparts, hsuffix⟩ := endsInSource_of_mem_sourcesOf hsource
  have hback : n ≠ ".." := by
    rintro rfl
    exact absurd hsuffix (by decide)
  have hplace : t.resolve a =
      names.foldl (fun here m => if m == ".." then here.dropLast else here ++ [m]) (t.start a) ++
        [n] := by
    rw [resolve, hparts, List.foldl_append, List.foldl_cons, List.foldl_nil,
      if_neg (by simpa using hback)]
  rw [hplace, Text.startsWith_eq, List.reverse_prefix, Path.text, if_neg (by simp)]
  rw [String.toList_append]
  exact (hsuffix.trans (suffix_intercalate _ n)).trans (List.suffix_append _ _)

/-- The names of a plain place lead there. -/
theorem resolve_of_plain (hp : Plain p) : t.resolve ⟨"/", p⟩ = p := by
  have hsteps : ∀ (names here : Place), ".." ∉ names →
      names.foldl (fun here n => if n == ".." then here.dropLast else here ++ [n]) here =
        here ++ names := by
    intro names
    induction names with
    | nil => exact fun here _ => (List.append_nil here).symm
    | cons n names ih =>
      intro here hnames
      obtain ⟨hn, hnames⟩ := not_or.mp (mt List.mem_cons.mpr hnames)
      rw [List.foldl_cons, if_neg (by simpa using Ne.symm hn), ih _ hnames, List.append_assoc,
        List.singleton_append]
  exact hsteps p [] hp

/-- What inputs list is collected for one of them. -/
theorem collect_of_listed (h : p ∈ LoadItem.places (t.items inputs)) :
    ∃ input, p ∈ t.collect [input] := by
  rw [items, LoadItem.places_fresh, places_flatMap_itemsOf] at h
  obtain ⟨input, -, hfile⟩ := List.mem_flatMap.mp (mem_of_mem_newPlaces h)
  refine ⟨input, ?_⟩
  rw [collect_one]
  exact mem_distinct.mpr hfile

end FileTree

/-! Steps of loading. -/

/-- The session after a folder was put in front of the search path. -/
def Session.searching (s : Session) (folder : Place) : Session :=
  if s.folders.contains folder then s else { s with folders := folder :: s.folders }

/-- The session in which the module of a file was forgotten, and its folder is searched first. -/
def Session.cleared (s : Session) (p : Place) (module : String) : Session :=
  { s.searching p.dropLast with world := s.world.forgetModule module }

namespace Session

variable {s : Session} {folder : Place}

@[simp] theorem searching_tree : (s.searching folder).tree = s.tree := by
  unfold searching
  split <;> rfl

@[simp] theorem searching_world : (s.searching folder).world = s.world := by
  unfold searching
  split <;> rfl

theorem mem_searching {f : Place} (h : f ∈ (s.searching folder).folders) :
    f = folder ∨ f ∈ s.folders := by
  unfold searching at h
  split at h
  · exact .inr h
  · exact List.mem_cons.mp h

end Session

/-- The version in which a module is kept, if it was given one. -/
def Annotation.World.keptVersion (w : World) (module : String) : Option Nat :=
  (w.loaded? module).bind LoadedModule.version

namespace Loading

variable {s : Session} {p : Place} {module : String} {inputs : List String} {items : List LoadItem}

theorem mem_of_mem_fresh {done : List Place} {item : LoadItem}
    (h : item ∈ LoadItem.fresh done items) : item ∈ items := by
  induction items generalizing done with
  | nil => exact h
  | cons first rest ih =>
    cases first with
    | file p =>
      rw [LoadItem.fresh] at h
      split at h
      · exact List.mem_cons_of_mem _ (ih h)
      · rcases List.mem_cons.mp h with rfl | h
        · exact List.mem_cons_self ..
        · exact List.mem_cons_of_mem _ (ih h)
    | module name requested =>
      rcases List.mem_cons.mp h with rfl | h
      · exact List.mem_cons_self ..
      · exact List.mem_cons_of_mem _ (ih h)

/-- Inputs that mean files ask for no module. -/
theorem not_module_mem_items {t : FileTree} {requested : List String}
    (h : ∀ input ∈ inputs, t.looksLikePath input = true) :
    .module module requested ∉ t.items inputs := by
  intro hmem
  obtain ⟨input, hinput, hitem⟩ := List.mem_flatMap.mp (mem_of_mem_fresh hmem)
  have hpath := h input (List.takeWhile_subset _ hinput)
  rw [FileTree.itemsOf, if_pos hpath] at hitem
  obtain ⟨p, -, hp⟩ := List.mem_map.mp hitem
  cases hp

/-- A file that inputs list, and the name of its module. -/
structure Lists (t : FileTree) (inputs : List String) (p : Place) (module : String) : Prop where
  listed : p ∈ LoadItem.places (t.items inputs)
  named : moduleNameOf? ⟨"/", p⟩ = some module

theorem run_handleOf (module : String) (s : Session) : (handleOf module).run.run s =
    (.ok (match s.world.current.lookup module with
      | some i => .loaded i
      | none => .library module), s) := by
  have hget : (get : Loading Session).run.run s = (.ok s, s) := rfl
  unfold handleOf
  rw [run_bind, hget]
  dsimp only
  cases s.world.current.lookup module <;> rfl

/-- What stands at a place is run as a module, unless it is a folder. -/
theorem run_launchFile (p : Place) (module : String) (version : Option Nat) (s : Session) :
    (launchFile ⟨"/", p⟩ p module version).run.run s =
      match s.tree.node? p with
      | some (.file content _) =>
        match (SearchPath.launch (fileModule p module) (SearchPath.execute
            (s.searchPath.importFrom module) module content)).run.run s.world with
        | (.ok _, w) => (handleOf module).run.run
            { s with world := w.changeModule module fun m => { m with version := version } }
        | (.error f, w) => (.error (bodyFault ⟨"/", p⟩ f), { s with world := w })
      | _ => (.error (.failedFile (SearchPath.absolute p)
          (FileFault.isFolder (SearchPath.absolute p)).message), s) := by
  have hget : (get : Loading Session).run.run s = (.ok s, s) := rfl
  have hmodify : ∀ f s, (modify f : Loading Unit).run.run s = (.ok (), f s) := fun _ _ => rfl
  have hfailed : bodyAt s module ⟨"/", p⟩ p = .error (.isFolder (SearchPath.absolute p)) →
      (launchFile ⟨"/", p⟩ p module version).run.run s =
        (.error (.failedFile (SearchPath.absolute p)
          (FileFault.isFolder (SearchPath.absolute p)).message), s) := by
    intro hbody
    unfold launchFile
    rw [run_bind, hget]
    dsimp only
    rw [hbody]
    rfl
  cases hnode : s.tree.node? p with
  | none =>
    refine hfailed ?_
    rw [bodyAt, hnode]
    rfl
  | some node =>
    cases node with
    | folder =>
      refine hfailed ?_
      rw [bodyAt, hnode]
      rfl
    | file content v =>
      have hbody : bodyAt s module ⟨"/", p⟩ p =
          .ok (SearchPath.execute (s.searchPath.importFrom module) module content) := by
        rw [bodyAt, hnode]
      unfold launchFile
      rw [run_bind, hget]
      dsimp only
      rw [hbody]
      dsimp only
      rw [run_bind, run_running]
      change _ = match (SearchPath.launch ⟨module, [], some (Path.mk "/" p).text, none, none, false⟩
        _).run.run s.world with | (.ok _, w) => _ | (.error f, w) => _
      rcases (SearchPath.launch ⟨module, [], some (Path.mk "/" p).text, none, none, false⟩
        (SearchPath.execute (s.searchPath.importFrom module) module content)).run.run s.world with
        ⟨f | u, w⟩
      · rfl
      · dsimp only [Except.mapError]
        rw [run_bind, hmodify]

/-- A listed file is known in its version, or the module of its name is forgotten and the file is
run anew. -/
theorem run_loadFile (ht : s.tree.Proper) (hp : Lists s.tree inputs p module) :
    (loadFile ⟨"/", p⟩).run.run s =
      if (s.world.keptVersion module).isSome &&
          s.world.keptVersion module == versionAt s.tree p then
        (handleOf module).run.run (s.searching p.dropLast)
      else (launchFile ⟨"/", p⟩ p module (versionAt s.tree p)).run.run
        { s.searching p.dropLast with world := s.world.forgetModule module } := by
  obtain ⟨input, hcollect⟩ := FileTree.collect_of_listed hp.listed
  obtain ⟨hplace, -⟩ := FileTree.place?_of_mem_collect ht hcollect
  have hparent : s.tree.resolve (Path.parent ⟨"/", p⟩) = p.dropLast :=
    FileTree.resolve_of_plain fun h =>
      FileTree.plain_of_mem_collect ht.home hcollect (List.mem_of_mem_dropLast h)
  have hget : ∀ s, (get : Loading Session).run.run s = (.ok s, s) := fun _ => rfl
  have hmodify : ∀ f s, (modify f : Loading Unit).run.run s = (.ok (), f s) := fun _ _ => rfl
  have hsearching : (if s.folders.contains p.dropLast then s
      else { s with folders := p.dropLast :: s.folders }) = s.searching p.dropLast := rfl
  unfold loadFile addFolder
  rw [run_bind, hget]
  dsimp only
  rw [run_bind, hmodify, hparent, hsearching, hp.named, hplace]
  dsimp only
  rw [run_bind, hget]
  dsimp only
  rw [Session.searching_world]
  split
  · next hknown => exact (if_pos hknown).symm
  · next hknown =>
    rw [run_bind, hmodify, if_pos (FileTree.source_of_mem_collect hcollect)]
    dsimp only
    rw [Session.searching_world]
    exact (if_neg hknown).symm

end Loading

end TypeProjection
