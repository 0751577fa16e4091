import TypeProjection.Proofs.ListedFiles
import TypeProjection.Proofs.RelocatedWorlds

/-!
# Files that a session keeps

A session may load its files again and again while they change. What it keeps of a file is what the
file of that version makes when it is run alone, and what it keeps of all files is apart. So loading
a file once more fails as running it alone does, and leaves no entry then, or it leaves what running
it alone makes; and a file whose version is kept is not run again.
-/

namespace TypeProjection

open Annotation
open Definition (Run run_bind)

/-! Module names of files. -/

theorem isOwnName_of_moduleNameOf {p : Path} {module : String} (h : moduleNameOf? p = some module) :
    IsOwnName module := by
  unfold moduleNameOf? at h
  split at h
  · cases h
  cases h
  generalize String.ofList _ = rest
  have hhead : ("_tsgen_input__" ++ rest).toList.head? = some '_' := by
    rw [String.toList_append]
    rfl
  constructor
  · intro hempty
    rw [hempty] at hhead
    cases hhead
  · intro hlibrary
    have hall : ∀ m ∈ libraryModules, m.toList.head? ≠ some '_' := by decide
    exact hall _ hlibrary hhead

namespace Loading

/-- A source file that inputs list, with what it holds. -/
structure Source (t : FileTree) (inputs : List String) (p : Place) (module : String)
    (content : FileContent) (version : Nat) : Prop extends Lists t inputs p module where
  node : t.node? p = some (.file content version)

section History

variable (T : FileTree → Prop) (inputs : List String)

/-- The modules of files that are listed at any time. -/
def FileName (n : String) : Prop := ∃ t p, T t ∧ Lists t inputs p n

/-- The folders that are searched at any time: those of the listed files, and the working
directory. -/
def Searched (f : Place) : Prop :=
  ∃ t, T t ∧ (f = t.home ∨ ∃ p module, Lists t inputs p module ∧ f = p.dropLast)

/-- The trees that inputs meet while files change. All inputs mean files. The files have modules of
different names, a version of a file has one content, and the files import no source file. -/
structure FileChanges : Prop where
  proper : ∀ t, T t → t.Proper
  paths : ∀ t, T t → ∀ input ∈ inputs, t.looksLikePath input = true
  apart : ∀ {t t' p p' module}, T t → T t' → Lists t inputs p module →
    Lists t' inputs p' module → p = p'
  versions : ∀ {t t' p module c c' v}, T t → T t' → Source t inputs p module c v →
    Source t' inputs p module c' v → c = c'
  abroad : ∀ {t p module c v} {folders : List Place}, T t → Source t inputs p module c v →
    (∀ f ∈ folders, Searched T inputs f) →
      SearchPath.ImportsAbroad ⟨t, folders⟩ (FileName T inputs) module c

/-- Files that change, none of which marks a type variable of the library. -/
structure FileHistory : Prop extends FileChanges T inputs where
  unmarked : ∀ {t p module c v}, T t → Source t inputs p module c v →
    (soloRun (fileModule p module) c).2.Unmarked

/-- What a session keeps of the files of a history. -/
structure Kept (s : Session) (es : List Stretch) : Prop where
  stocks : s.world.Stocks es
  folders : ∀ f ∈ s.folders, Searched T inputs f
  kept : ∀ e ∈ es, ∃ t p module version, T t ∧ Source t inputs p module e.content version ∧
    e.module = fileModule p module ∧ s.world.keptVersion module = some version

end History

variable {T T' : FileTree → Prop} {inputs : List String} {s s' : Session} {es es' : List Stretch}
  {t : FileTree} {p : Place} {module : String}

/-- Why a listed file cannot be loaded, if it cannot: it is a folder, or it fails as it does when it
is run alone. -/
def faultAt (t : FileTree) (p : Place) (module : String) : Option InputFault :=
  match t.node? p with
  | some (.file content _) =>
    match (soloRun (fileModule p module) content).1 with
    | .ok _ => none
    | .error f => some (bodyFault ⟨"/", p⟩ f)
  | _ => some (.failedFile (SearchPath.absolute p)
      (FileFault.isFolder (SearchPath.absolute p)).message)

/-- Is the version of a file kept? -/
def IsKept (w : World) (t : FileTree) (p : Place) (module : String) : Prop :=
  (w.keptVersion module).isSome = true ∧ w.keptVersion module = versionAt t p

/-- What loading a listed file leaves. -/
structure FileStep (T : FileTree → Prop) (inputs : List String) (s : Session) (es : List Stretch)
    (p : Place) (module : String) (r : Except InputFault ModuleHandle) (s' : Session)
    (es' : List Stretch) : Prop where
  kept : Kept T inputs s' es'
  tree : s'.tree = s.tree
  others : ∀ n ≠ module, s'.world.current.lookup n = s.world.current.lookup n ∧
    s'.world.loaded? n = s.world.loaded? n
  stays : ∀ e ∈ es, e.module.name ≠ module → e ∈ es'
  failed : ∀ f, faultAt s.tree p module = some f →
    r = .error f ∧ s'.world.current.lookup module = none
  loaded : faultAt s.tree p module = none →
    (∃ i, r = .ok (.loaded i) ∧ s'.world.current.lookup module = some i) ∧
    IsKept s'.world s.tree p module ∧
    ∃ e ∈ es', e.module = fileModule p module ∧ e.content = SearchPath.contentAt s.tree p
  reused : IsKept s.world s.tree p module → s'.world = s.world
  run : ¬ IsKept s.world s.tree p module → s.tree.isFileAt p = true →
    s.world.modules.size < s'.world.modules.size
  covered : (∀ t, T t → t = s.tree) → faultAt s.tree p module = none →
    s.world.Covered es → s'.world.Covered es'

section Cleared

variable {n : String}

theorem tree_cleared (s : Session) (p : Place) (module : String) :
    (s.cleared p module).tree = s.tree := Session.searching_tree

theorem lookup_cleared : (s.cleared p module).world.current.lookup module = none :=
  (current_forgetModule s.world module module).trans (if_pos rfl)

theorem others_cleared (hn : n ≠ module) :
    (s.cleared p module).world.current.lookup n = s.world.current.lookup n ∧
      (s.cleared p module).world.loaded? n = s.world.loaded? n := by
  refine ⟨(current_forgetModule s.world module n).trans (if_neg hn), ?_⟩
  exact (loaded?_forgetModule s.world module n).trans (if_neg hn)

/-- A listed file whose version is not kept is run when the module of its name has been
forgotten. -/
theorem run_loadFile_of_not (hist : FileHistory T inputs) (hT : T s.tree)
    (hp : Lists s.tree inputs p module) (hnot : ¬ IsKept s.world s.tree p module) :
    (loadFile ⟨"/", p⟩).run.run s =
      (launchFile ⟨"/", p⟩ p module (versionAt s.tree p)).run.run (s.cleared p module) := by
  refine (run_loadFile (hist.proper _ hT) hp).trans (if_neg ?_)
  rw [Bool.and_eq_true, beq_iff_eq]
  exact hnot

end Cleared

theorem kept_fresh (ht : T t) : Kept T inputs (Session.fresh t) [] where
  stocks := stocks_initial
  folders _ hf := ⟨t, ht, .inl (List.mem_singleton.mp hf)⟩
  kept _ he := (List.not_mem_nil he).elim

section Steps

variable (hk : Kept T inputs s es)

include hk

theorem Kept.isFileName {e : Stretch} (he : e ∈ es) : FileName T inputs e.module.name := by
  obtain ⟨t, p, module, version, ht, hsource, hmodule, -⟩ := hk.kept e he
  rw [hmodule]
  exact ⟨t, p, ht, hsource.toLists⟩

/-- Stretches stay kept in another session, as long as their modules keep their versions. -/
theorem Kept.keep (hstocks : s'.world.Stocks es') (hfolders : ∀ f ∈ s'.folders, Searched T inputs f)
    (hes : ∀ e ∈ es', e ∈ es)
    (hversions : ∀ e ∈ es', s'.world.loaded? e.module.name = s.world.loaded? e.module.name) :
    Kept T inputs s' es' where
  stocks := hstocks
  folders := hfolders
  kept e he := by
    obtain ⟨t, p, module, version, ht, hsource, hmodule, hversion⟩ := hk.kept e (hes e he)
    refine ⟨t, p, module, version, ht, hsource, hmodule, ?_⟩
    have hsame := hversions e he
    rw [hmodule] at hsame
    rw [World.keptVersion, show s'.world.loaded? module = s.world.loaded? module from hsame]
    exact hversion

theorem Kept.searched (hT : T s.tree) (hp : Lists s.tree inputs p module) :
    ∀ f ∈ (s.searching p.dropLast).folders, Searched T inputs f := by
  intro f hf
  rcases Session.mem_searching hf with rfl | hf
  · exact ⟨s.tree, hT, .inr ⟨p, module, hp, rfl⟩⟩
  · exact hk.folders f hf

/-- What stands at the place of a version that is kept, and what is kept of it. -/
theorem Kept.source_of_isKept (hist : FileHistory T inputs) (hT : T s.tree)
    (hp : Lists s.tree inputs p module) (hkept : IsKept s.world s.tree p module) :
    ∃ c v, Source s.tree inputs p module c v ∧ ∃ e ∈ es, e.module = fileModule p module ∧
      e.content = c ∧ ∃ i, s.world.current.lookup module = some i := by
  obtain ⟨v, hv⟩ := Option.isSome_iff_exists.mp hkept.1
  obtain ⟨m, hm, -⟩ := Option.bind_eq_some_iff.mp hv
  obtain ⟨i, hi, -⟩ := Option.bind_eq_some_iff.mp hm
  have hnode : ∃ c, s.tree.node? p = some (.file c v) := by
    have hversion := hkept.2.symm.trans hv
    unfold versionAt at hversion
    split at hversion
    · next c v' hnode =>
      cases hversion
      exact ⟨c, hnode⟩
    · cases hversion
  obtain ⟨c, hnode⟩ := hnode
  obtain ⟨e, he, hname⟩ := hk.stocks.found module i hi
  obtain ⟨t, p', module', v', ht, hsource, hmodule, hv'⟩ := hk.kept e he
  rw [hmodule] at hname
  obtain rfl : module' = module := hname
  obtain rfl := hist.apart ht hT hsource.toLists hp
  obtain rfl : v' = v := Option.some.inj (hv'.symm.trans hv)
  have hsource' : Source s.tree inputs p' module' c v' := ⟨hp, hnode⟩
  exact ⟨c, v', hsource', e, he, hmodule, hist.versions ht hT hsource hsource', i, hi⟩

/-- While the files do not change, a module that is found is kept in its version. -/
theorem Kept.isKept_of_found (hist : FileHistory T inputs) (hsingle : ∀ t, T t → t = s.tree)
    (hT : T s.tree) (hp : Lists s.tree inputs p module) {i : Nat}
    (hi : s.world.current.lookup module = some i) : IsKept s.world s.tree p module := by
  obtain ⟨e, he, hname⟩ := hk.stocks.found module i hi
  obtain ⟨t, p', module', v, ht, hsource, hmodule, hv⟩ := hk.kept e he
  rw [hmodule] at hname
  obtain rfl : module' = module := hname
  obtain rfl := hist.apart ht hT hsource.toLists hp
  refine ⟨by rw [hv]; rfl, ?_⟩
  rw [hv, versionAt, ← hsingle t ht, hsource.node]

/-- A file whose version is kept is not run again. -/
theorem Kept.step_reused (hist : FileHistory T inputs) (hT : T s.tree)
    (hp : Lists s.tree inputs p module) (hkept : IsKept s.world s.tree p module) :
    ∃ r s', (loadFile ⟨"/", p⟩).run.run s = (r, s') ∧
      FileStep T inputs s es p module r s' es := by
  obtain ⟨c, v, hsource, e, he, hmodule, hcontent, i, hi⟩ := hk.source_of_isKept hist hT hp hkept
  have hok : faultAt s.tree p module = none := by
    have hran := (hk.stocks.holds e he).proper.ran
    rw [hmodule, hcontent] at hran
    rw [faultAt, hsource.node]
    dsimp only
    rw [hran]
  have hcond : ((s.world.keptVersion module).isSome &&
      s.world.keptVersion module == versionAt s.tree p) = true := by
    rw [hkept.1, Bool.true_and, beq_iff_eq]
    exact hkept.2
  refine ⟨.ok (.loaded i), s.searching p.dropLast, ?_, ?_, ?_, ?_, ?_, ?_, ?_, ?_, ?_, ?_⟩
  · rw [run_loadFile (hist.proper _ hT) hp, if_pos hcond, run_handleOf, Session.searching_world, hi]
  · refine hk.keep ?_ (hk.searched hT hp) (fun _ he => he) fun _ _ => ?_
    · rw [Session.searching_world]
      exact hk.stocks
    · rw [Session.searching_world]
  · exact Session.searching_tree
  · intro n _
    rw [Session.searching_world]
    exact ⟨rfl, rfl⟩
  · exact fun e he _ => he
  · intro f hf
    rw [hok] at hf
    cases hf
  · intro _
    rw [Session.searching_world]
    refine ⟨⟨i, rfl, hi⟩, hkept, e, he, hmodule, ?_⟩
    rw [hcontent, SearchPath.contentAt, hsource.node]
  · exact fun _ => Session.searching_world
  · exact fun hnot => (hnot hkept).elim
  · intro _ _ hcovered
    rw [Session.searching_world]
    exact hcovered

/-- What is left when the module of a file is forgotten. -/
theorem Kept.cleared (hT : T s.tree) (hp : Lists s.tree inputs p module) :
    Kept T inputs (s.cleared p module) (Stretch.without module es) :=
  hk.keep (hk.stocks.forget module) (hk.searched hT hp) (fun _ he => (Stretch.mem_without.mp he).1)
    fun _ he => (others_cleared (Stretch.mem_without.mp he).2).2

/-- A folder is not run, and the module of its name is forgotten. -/
theorem Kept.step_folder (hist : FileHistory T inputs) (hT : T s.tree)
    (hp : Lists s.tree inputs p module) (hnot : ¬ IsKept s.world s.tree p module)
    (hfolder : s.tree.isFileAt p = false) :
    ∃ r s' es', (loadFile ⟨"/", p⟩).run.run s = (r, s') ∧
      FileStep T inputs s es p module r s' es' := by
  have hfile : ∀ c v, s.tree.node? p ≠ some (.file c v) := by
    intro c v hnode
    rw [FileTree.isFileAt, hnode] at hfolder
    cases hfolder
  have hfault : faultAt s.tree p module = some (.failedFile (SearchPath.absolute p)
      (FileFault.isFolder (SearchPath.absolute p)).message) := by
    unfold faultAt
    split
    · next c v hnode => exact (hfile c v hnode).elim
    · rfl
  have hrun : (loadFile ⟨"/", p⟩).run.run s =
      (.error (.failedFile (SearchPath.absolute p)
        (FileFault.isFolder (SearchPath.absolute p)).message), s.cleared p module) := by
    rw [run_loadFile_of_not hist hT hp hnot, run_launchFile, tree_cleared]
    split
    · next c v hnode => exact (hfile c v hnode).elim
    · rfl
  refine ⟨_, _, Stretch.without module es, hrun, hk.cleared hT hp, tree_cleared s p module,
    fun n hn => others_cleared hn, fun e he hne => Stretch.mem_without.mpr ⟨he, hne⟩,
    fun f hf => ?_, fun hf => ?_, fun hkept => (hnot hkept).elim, fun _ hf => ?_, fun _ hf => ?_⟩
  · rw [hfault] at hf
    cases hf
    exact ⟨rfl, lookup_cleared⟩
  · rw [hfault] at hf
    cases hf
  · rw [hfolder] at hf
    cases hf
  · rw [hfault] at hf
    cases hf

/-- A file whose version is not kept is run as it runs alone, when the module of its name has been
forgotten. -/
theorem Kept.launched (hist : FileHistory T inputs) (hT : T s.tree) {c : FileContent} {v : Nat}
    (hsource : Source s.tree inputs p module c v) (hnot : ¬ IsKept s.world s.tree p module) :
    ∃ w₁, (loadFile ⟨"/", p⟩).run.run s = (match (soloRun (fileModule p module) c).1 with
      | .ok _ => (handleOf module).run.run { s.cleared p module with
          world := w₁.changeModule module fun m => { m with version := some v } }
      | .error f => (.error (bodyFault ⟨"/", p⟩ f),
          { s.cleared p module with world := w₁ })) ∧
      s.world.modules.size < w₁.modules.size ∧
      (∀ n ≠ module, w₁.current.lookup n = s.world.current.lookup n ∧
        w₁.loaded? n = s.world.loaded? n) ∧
      match (soloRun (fileModule p module) c).1 with
      | .ok _ => (∃ b, w₁.Stocks (Stretch.without module es ++ [⟨fileModule p module, c, b⟩]) ∧
          ∀ k, b.count k = (s.world.forgetModule module).count k ∧
            (s.world.forgetModule module).count k +
              Stretch.length ⟨fileModule p module, c, b⟩ k = w₁.count k) ∧
          ∃ m, w₁.loaded? module = some m
      | .error _ => w₁.Stocks (Stretch.without module es) ∧ w₁.current.lookup module = none := by
  have hp := hsource.toLists
  have hversion : versionAt s.tree p = some v := by rw [versionAt, hsource.node]
  have hk₁ := hk.cleared hT hp
  obtain ⟨w₁, hlaunch, hgrows, hkeeps, hends⟩ := hk₁.stocks.launch (m := fileModule p module)
    (N := FileName T inputs) ⟨rfl, rfl, s.tree, p, hT, hp⟩ lookup_cleared
    (fun e he => hk₁.isFileName he)
    (fun n hn => by
      obtain ⟨t, p, -, hlists⟩ := hn
      exact (isOwnName_of_moduleNameOf hlists.named).2)
    (hist.abroad hT hsource hk₁.folders) (hist.unmarked hT hsource)
  refine ⟨w₁, ?_, hgrows, fun n hn => ?_, ?_⟩
  · have hpath : (s.cleared p module).searchPath = ⟨s.tree, (s.cleared p module).folders⟩ := by
      rw [Session.searchPath, tree_cleared]
    have hlaunch' : (SearchPath.launch (fileModule p module) (SearchPath.execute
        ((⟨s.tree, (s.cleared p module).folders⟩ : SearchPath).importFrom module) module
          c)).run.run (s.cleared p module).world =
            ((soloRun (fileModule p module) c).1, w₁) := hlaunch
    have hnode : (s.cleared p module).tree.node? p = some (.file c v) := by
      rw [tree_cleared, hsource.node]
    rw [run_loadFile_of_not hist hT hp hnot, run_launchFile, hnode, hpath, hversion]
    dsimp only
    rw [hlaunch']
    cases (soloRun (fileModule p module) c).1 <;> rfl
  · exact ⟨(hkeeps n hn).1.trans (others_cleared hn).1, (hkeeps n hn).2.trans (others_cleared hn).2⟩
  · cases hsolo : (soloRun (fileModule p module) c).1 with
    | error f =>
      rw [hsolo] at hends
      exact hends
    | ok u =>
      rw [hsolo] at hends
      obtain ⟨hstocks, hcount, names, hloaded⟩ := hends
      exact ⟨⟨_, hstocks, fun k => ⟨count_start _, hcount k⟩⟩, _, hloaded⟩

/-- A file that fails leaves no entry. -/
theorem Kept.step_failed (hist : FileHistory T inputs) (hT : T s.tree) {c : FileContent} {v : Nat}
    (hsource : Source s.tree inputs p module c v) (hnot : ¬ IsKept s.world s.tree p module)
    {f : Fault} (hsolo : (soloRun (fileModule p module) c).1 = .error f) :
    ∃ r s' es', (loadFile ⟨"/", p⟩).run.run s = (r, s') ∧
      FileStep T inputs s es p module r s' es' := by
  obtain ⟨w₁, hrun, hgrows, hkeeps, hends⟩ := hk.launched hist hT hsource hnot
  rw [hsolo] at hrun hends
  have hfault : faultAt s.tree p module =
      some (bodyFault ⟨"/", p⟩ f) := by
    rw [faultAt, hsource.node]
    dsimp only
    rw [hsolo]
  refine ⟨_, _, Stretch.without module es, hrun, ?_, tree_cleared s p module, fun n hn => hkeeps n hn,
    fun e he hne => Stretch.mem_without.mpr ⟨he, hne⟩, fun f' hf => ?_, fun hf => ?_,
    fun hkept => (hnot hkept).elim, fun _ _ => hgrows, fun _ hf => ?_⟩
  · refine hk.keep hends.1 (hk.cleared hT hsource.toLists).folders
      (fun e he => (Stretch.mem_without.mp he).1) fun e he => ?_
    exact (hkeeps _ (Stretch.mem_without.mp he).2).2
  · rw [hfault] at hf
    cases hf
    exact ⟨rfl, hends.2⟩
  · rw [hfault] at hf
    cases hf
  · rw [hfault] at hf
    cases hf

/-- A file that runs well is kept in its version. -/
theorem Kept.step_loaded (hist : FileHistory T inputs) (hT : T s.tree) {c : FileContent} {v : Nat}
    (hsource : Source s.tree inputs p module c v) (hnot : ¬ IsKept s.world s.tree p module)
    (hsolo : (soloRun (fileModule p module) c).1 = .ok ()) :
    ∃ r s' es', (loadFile ⟨"/", p⟩).run.run s = (r, s') ∧
      FileStep T inputs s es p module r s' es' := by
  have hp := hsource.toLists
  obtain ⟨w₁, hrun, hgrows, hkeeps, hends⟩ := hk.launched hist hT hsource hnot
  rw [hsolo] at hrun hends
  obtain ⟨⟨b, hstocks, hcount⟩, m, hloaded⟩ := hends
  rw [run_handleOf] at hrun
  have hfault : faultAt s.tree p module = none := by
    rw [faultAt, hsource.node]
    dsimp only
    rw [hsolo]
  have hversion : versionAt s.tree p = some v := by rw [versionAt, hsource.node]
  have hcontent : SearchPath.contentAt s.tree p = c := by
    rw [SearchPath.contentAt, hsource.node]
  generalize hw₂ : w₁.changeModule module (fun m => { m with version := some v }) = w₂ at hrun
  have hothers : ∀ n ≠ module, w₂.current.lookup n = s.world.current.lookup n ∧
      w₂.loaded? n = s.world.loaded? n := by
    intro n hn
    rw [← hw₂, current_changeModule, loaded?_changeModule hstocks.distinguishes, if_neg hn]
    exact hkeeps n hn
  have hkept : w₂.keptVersion module = some v := by
    rw [← hw₂, World.keptVersion, loaded?_changeModule hstocks.distinguishes, if_pos rfl, hloaded]
    rfl
  obtain ⟨i, hi, -⟩ := Option.bind_eq_some_iff.mp hloaded
  have hi₂ : w₂.current.lookup module = some i := by rw [← hw₂, current_changeModule, hi]
  rw [hi₂] at hrun
  refine ⟨_, _, Stretch.without module es ++ [⟨fileModule p module, c, b⟩], hrun, ?_,
    tree_cleared s p module, hothers, fun e he hne => ?_, fun f' hf => ?_, fun _ => ?_,
    fun hkept => (hnot hkept).elim,
    fun _ _ => ?_, fun hsingle _ hcovered => ?_⟩
  · refine ⟨hw₂ ▸ hstocks.change module fun _ => rfl, (hk.cleared hT hp).folders, ?_⟩
    intro e he
    rcases List.mem_append.mp he with he | he
    · obtain ⟨hmem, hne⟩ := Stretch.mem_without.mp he
      obtain ⟨t, p', module', v', ht, hsource', hmodule, hv'⟩ := hk.kept e hmem
      rw [hmodule] at hne
      refine ⟨t, p', module', v', ht, hsource', hmodule, ?_⟩
      exact (congrArg (Option.bind · _) (hothers module' hne).2).trans hv'
    · cases List.mem_singleton.mp he
      exact ⟨s.tree, p, module, v, hT, hsource, rfl, hkept⟩
  · exact List.mem_append_left _ (Stretch.mem_without.mpr ⟨he, hne⟩)
  · rw [hfault] at hf
    cases hf
  · refine ⟨⟨i, rfl, hi₂⟩, ⟨?_, hkept.trans hversion.symm⟩, _,
      List.mem_append_right _ (List.mem_singleton_self _), rfl, hcontent.symm⟩
    rw [hkept]
    rfl
  · rw [← hw₂, size_changeModule]
    exact hgrows
  · have hdifferent : ∀ e ∈ es, e.module.name ≠ module := by
      rintro e he rfl
      obtain ⟨x, hx, -⟩ := (hk.stocks.holds e he).found
      obtain ⟨j, hj, -⟩ := Option.bind_eq_some_iff.mp hx
      exact hnot (hk.isKept_of_found hist hsingle hT hp hj)
    intro k j hj hlt
    rw [← hw₂, count_changeModule, ← (hcount k).2, ← (hcount k).1] at hlt
    by_cases hold : j < s.world.count k
    · obtain ⟨e, he, hin⟩ := hcovered k j hj hold
      exact ⟨e, List.mem_append_left _ (Stretch.mem_without.mpr ⟨he, hdifferent e he⟩), hin⟩
    · refine ⟨_, List.mem_append_right _ (List.mem_singleton_self _), ?_, hlt⟩
      rw [(hcount k).1]
      exact Nat.le_of_not_lt hold

/-- Loading a listed file once more. -/
theorem Kept.step (hist : FileHistory T inputs) (hT : T s.tree)
    (hp : Lists s.tree inputs p module) :
    ∃ r s' es', (loadFile ⟨"/", p⟩).run.run s = (r, s') ∧
      FileStep T inputs s es p module r s' es' := by
  by_cases hkept : IsKept s.world s.tree p module
  · obtain ⟨r, s', hrun, hstep⟩ := hk.step_reused hist hT hp hkept
    exact ⟨r, s', es, hrun, hstep⟩
  · cases hfile : s.tree.isFileAt p with
    | false => exact hk.step_folder hist hT hp hkept hfile
    | true =>
      unfold FileTree.isFileAt at hfile
      split at hfile
      · next c v hnode =>
        cases hsolo : (soloRun (fileModule p module) c).1 with
        | error f => exact hk.step_failed hist hT ⟨hp, hnode⟩ hkept hsolo
        | ok u => exact hk.step_loaded hist hT ⟨hp, hnode⟩ hkept hsolo
      · cases hfile

end Steps

end Loading

end TypeProjection
