import TypeProjection.Proofs.DistinctLists
import TypeProjection.Proofs.ExecutedModules
import TypeProjection.Proofs.WrittenFiles

/-!
# Loading a file

A file that is loaded is either known in its version, or it is run as a new module: the module of
its name is forgotten first, and then all that comes about is what the file and its imports make.
-/

namespace TypeProjection

open Annotation
open Definition (Run Traces run_bind run_bind_ok)

/-! Places without steps back. -/

namespace FileTree

variable {t : FileTree} {p q : Place}

/-- No name of a place leads back. -/
def Plain (p : Place) : Prop := ".." ∉ p

/-- The names of a plain place lead to the place itself. -/
theorem place?_of_plain (hp : Plain p) (h : t.place? ⟨"/", p⟩ = some q) : q = p := by
  have hsteps : ∀ (names here : Place), ".." ∉ names →
      names.foldl (fun here n => if n == ".." then here.dropLast else here ++ [n]) here =
        here ++ names := by
    intro names
    induction names with
    | nil => exact fun here _ => (List.append_nil here).symm
    | cons n names ih =>
      intro here hnames
      rw [List.mem_cons, not_or] at hnames
      rw [List.foldl_cons, if_neg (by simpa using fun h : n = ".." => hnames.1 h.symm), ih _ hnames.2,
        List.append_assoc, List.singleton_append]
  have hq := follow_eq_foldl h
  rw [hsteps p _ hp] at hq
  exact hq.symm

/-- A path means a plain place if its start is one. -/
theorem plain_resolve (ht : Plain t.home) (p : Path) : Plain (t.resolve p) := by
  have hsteps : ∀ (names here : Place), Plain here →
      Plain (names.foldl (fun here n => if n == ".." then here.dropLast else here ++ [n]) here) := by
    intro names
    induction names with
    | nil => exact fun _ h => h
    | cons n names ih =>
      intro here hhere
      rw [List.foldl_cons]
      refine ih _ ?_
      split
      · exact fun hmem => hhere (List.dropLast_subset _ hmem)
      · next hn =>
        intro hmem
        rcases List.mem_append.mp hmem with hmem | hmem
        · exact hhere hmem
        · exact hn (by simpa using (List.mem_singleton.mp hmem).symm)
  refine hsteps _ _ ?_
  unfold start
  split
  · exact List.not_mem_nil
  · exact ht

/-- The source files of inputs are at plain places. -/
theorem plain_of_mem_collect (ht : Plain t.home) {inputs : List String} (h : p ∈ t.collect inputs) :
    Plain p := by
  obtain ⟨q, -, rfl⟩ := List.mem_map.mp (List.mem_filter.mp (mem_of_mem_distinct h)).1
  exact plain_resolve ht q

end FileTree

/-! Steps of loading that succeed. -/

namespace Loading

variable {α : Type} {s s' : Session} {p : Place} {module : String} {h : ModuleHandle}

theorem run_running (cause : Fault → InputFault) (body : Run α) (s : Session) :
    (running cause body).run.run s =
      ((body.run.run s.world).1.mapError cause, { s with world := (body.run.run s.world).2 }) := by
  have hsession : (get : Loading Session).run.run s = (.ok s, s) := rfl
  unfold running
  rw [run_bind, hsession]
  rcases hbody : body.run.run s.world with ⟨e | a, w⟩
  · simp only [hbody, run_bind]
    rfl
  · simp only [hbody, run_bind]
    rfl

theorem running_ok {cause : Fault → InputFault} {body : Run α} {a : α} :
    (running cause body).run.run s = (.ok a, s') ↔
      ∃ w, body.run.run s.world = (.ok a, w) ∧ s' = { s with world := w } := by
  rw [run_running]
  rcases body.run.run s.world with ⟨e | b, w⟩
  · constructor
    · intro h
      cases h
    · rintro ⟨w, h, -⟩
      cases h
  · constructor
    · intro h
      cases h
      exact ⟨w, rfl, rfl⟩
    · rintro ⟨w', h, rfl⟩
      cases h
      rfl

theorem handleOf_ok (hrun : (handleOf module).run.run s = (.ok h, s')) :
    s' = s ∧ h = match s.world.current.lookup module with
      | some i => .loaded i
      | none => .library module := by
  have hget : (get : Loading Session).run.run s = (.ok s, s) := rfl
  unfold handleOf at hrun
  rw [run_bind, hget] at hrun
  cases hi : s.world.current.lookup module with
  | some i =>
    simp only [hi] at hrun
    cases hrun
    exact ⟨rfl, rfl⟩
  | none =>
    simp only [hi] at hrun
    cases hrun
    exact ⟨rfl, rfl⟩

/-- The entry of a file that is loaded. -/
def fileModule (p : Place) (module : String) : LoadedModule :=
  ⟨module, [], some (SearchPath.absolute p), none, none, false⟩

/-- A file that has been loaded: it is known in its version, or it has been run as a new module
after the module of its name was forgotten. -/
theorem loadFile_ok (hp : FileTree.Plain p)
    (hrun : (loadFile ⟨"/", p⟩).run.run s = (.ok h, s')) :
    ∃ module, moduleNameOf? ⟨"/", p⟩ = some module ∧ s'.tree = s.tree ∧
      ((((s.world.loaded? module).bind LoadedModule.version).isSome = true ∧
          s'.world = s.world ∧ (handleOf module).run.run s' = (.ok h, s')) ∨
        ∃ w version, (SearchPath.launch (fileModule p module)
            (SearchPath.execute (s'.searchPath.importFrom module) module
              (SearchPath.contentAt s.tree p))).run.run (s.world.forgetModule module) = (.ok (), w) ∧
          s'.world = w.changeModule module (fun m => { m with version := version }) ∧
          (handleOf module).run.run s' = (.ok h, s')) := by
  have hget : ∀ s, (get : Loading Session).run.run s = (.ok s, s) := fun _ => rfl
  have hmodify : ∀ f s, (modify f : Loading Unit).run.run s = (.ok (), f s) := fun _ _ => rfl
  unfold loadFile addFolder at hrun
  rw [run_bind, hget] at hrun
  dsimp only at hrun
  rw [run_bind, hmodify] at hrun
  dsimp only at hrun
  generalize hs₁ : (if s.folders.contains (s.tree.resolve (Path.parent ⟨"/", p⟩)) = true then s
    else { s with folders := s.tree.resolve (Path.parent ⟨"/", p⟩) :: s.folders }) = s₁ at hrun
  have htree : s₁.tree = s.tree := by
    rw [← hs₁]
    split <;> rfl
  have hworld : s₁.world = s.world := by
    rw [← hs₁]
    split <;> rfl
  split at hrun
  · cases hrun
  next module hmodule =>
  split at hrun
  · cases hrun
  next place hplace =>
  obtain rfl := FileTree.place?_of_plain hp hplace
  rw [run_bind, hget] at hrun
  dsimp only at hrun
  refine ⟨module, hmodule, ?_⟩
  split at hrun
  · next hknown =>
    obtain ⟨rfl, -⟩ := handleOf_ok hrun
    rw [Bool.and_eq_true, hworld] at hknown
    exact ⟨htree, .inl ⟨hknown.1, hworld, hrun⟩⟩
  · rw [run_bind, hmodify] at hrun
    dsimp only at hrun
    split at hrun
    · unfold launchFile at hrun
      rw [run_bind, hget] at hrun
      dsimp only at hrun
      split at hrun
      · cases hrun
      next body hbody =>
      obtain ⟨⟨⟩, s₂, hrunning, hrun⟩ := run_bind_ok.mp hrun
      obtain ⟨w, hlaunch, rfl⟩ := running_ok.mp hrunning
      rw [run_bind, hmodify] at hrun
      dsimp only at hrun
      obtain ⟨rfl, -⟩ := handleOf_ok hrun
      refine ⟨htree, .inr ⟨w, _, ?_, rfl, hrun⟩⟩
      unfold bodyAt at hbody
      split at hbody
      · next content version hnode =>
        cases hbody
        have hcontent : SearchPath.contentAt s.tree place = content := by
          rw [← htree, SearchPath.contentAt, show s₁.tree.node? place = _ from hnode]
        rw [hcontent, ← hworld]
        exact hlaunch
      · cases hbody
    · cases hrun

end Loading

/-- A run with a result is a run that succeeds. -/
theorem ok_of_toOption {ε α : Type} {x : Except ε α} {a : α} (h : x.toOption = some a) :
    x = .ok a := by
  obtain e | b := x
  · cases h
  · cases h
    rfl

theorem eq_ok_of_toOption {ε α σ : Type} {x : Except ε α × σ} {a : α}
    (h : x.1.toOption = some a) : x = (.ok a, x.2) :=
  Prod.ext (ok_of_toOption h) rfl

/-! What running a file leaves. -/

/-- A run of the file at a place as a module: it begins without names, and it makes the classes of
the file's class statements. -/
structure Executed (t : FileTree) (p : Place) (module : String) (w w' : World)
    (made : List ClassInfo) : Prop where
  runs : ∃ folders, (SearchPath.execute ((⟨t, folders⟩ : SearchPath).importFrom module) module
    (SearchPath.contentAt t p)).run.run w = (.ok (), w')
  empty : w.namesOf module = []
  classes : w'.classes.toList = w.classes.toList ++ made
  paths : pathsIn module made = t.classStatements p

section Launched

variable {t : FileTree} {p : Place} {folders : List Place} {module : String} {w w' : World}

open Loading (fileModule)

theorem namesOf_eq {i : Nat} {m : LoadedModule} (hi : w.current.lookup module = some i)
    (hm : w.modules[i]? = some m) : w.namesOf module = m.names := by
  rw [World.namesOf, World.loaded?, hi, Option.bind_some, hm]
  rfl

/-- A file that has been run as a new module. -/
theorem executed_of_launch (hnew : w.current.lookup module = none)
    (hrun : (SearchPath.launch (fileModule p module)
      (SearchPath.execute ((⟨t, folders⟩ : SearchPath).importFrom module) module
        (SearchPath.contentAt t p))).run.run w = (.ok (), w')) :
    ∃ w₁ made, Executed t p module (w.addModule (fileModule p module)) w₁ made ∧
      w.Ran t none [] w' made ∧ w'.classes = w₁.classes ∧
      w'.current.lookup module = some w.modules.size ∧
      ∃ m, w'.modules[w.modules.size]? = some m ∧ World.SameModule (fileModule p module) m ∧
        m.names = w₁.namesOf module := by
  have hown : ∀ n ∈ some module, (w.addModule (fileModule p module)).Finds n := by
    intro n hn
    obtain rfl : module = n := Option.some.inj hn
    exact finds_addModule w (fileModule p module)
  have hadded : (w.addModule (fileModule p module)).current.lookup module = some w.modules.size :=
    (current_addModule w (fileModule p module) module).trans (if_pos rfl)
  have hentry : (w.addModule (fileModule p module)).modules[w.modules.size]? =
    some (fileModule p module) := Array.getElem?_push_size
  have hexecute : Traces t (some module) (t.classStatements p) (w.addModule (fileModule p module))
      (SearchPath.execute ((⟨t, folders⟩ : SearchPath).importFrom module) module
        (SearchPath.contentAt t p)) :=
    traces_execute fun _ _ _ => traces_importFrom (s := ⟨t, folders⟩)
  obtain ⟨done, made, -, hran, hdone⟩ := hexecute hown
  rw [run_launch] at hrun
  rcases hbody : (SearchPath.execute ((⟨t, folders⟩ : SearchPath).importFrom module) module
    (SearchPath.contentAt t p)).run.run (w.addModule (fileModule p module)) with ⟨e | ⟨⟩, w₁⟩
  · rw [hbody] at hrun
    cases hrun
  rw [hbody] at hrun hran hdone
  obtain rfl := hdone () rfl
  obtain rfl : w₁.changeModule module (fun m => { m with isReady := true }) = w' :=
    congrArg Prod.snd hrun
  obtain ⟨m, hm, hsame⟩ := hran.modules _ _ hentry
  have hcurrent : w₁.current.lookup module = some w.modules.size := hran.current _ _ hadded
  have hready : w₁.changeModule module (fun m => { m with isReady := true }) =
      { w₁ with modules := w₁.modules.modify w.modules.size fun m => { m with isReady := true } } := by
    rw [World.changeModule, hcurrent]
  refine ⟨w₁, made, ⟨⟨folders, hbody⟩, namesOf_eq hadded hentry, hran.classes,
    hran.ownPaths module rfl⟩, ?_, by rw [hready], by rw [hready]; exact hcurrent,
    { m with isReady := true }, ?_, ⟨hsame.name, hsame.file, hsame.folders, hsame.version⟩,
    (namesOf_eq hcurrent hm).symm⟩
  · have hnone : w.Ran t none [] w₁ made :=
      World.Ran.of_added (m := fileModule p module) nofun hnew rfl
        (fun f hf => ⟨p, (Option.some.inj hf).symm, List.prefix_refl _⟩) (fun h => by cases h) hran
    have hlast : w₁.Ran t none [] (w₁.changeModule module fun m => { m with isReady := true }) [] :=
      Definition.ran_changeModule (fun _ => ⟨rfl, rfl, rfl, rfl⟩) fun _ _ _ _ _ _ => rfl
    simpa using hnone.trans (fun _ h => by cases h) hlast
  · rw [hready, Array.getElem?_modify, if_pos rfl, hm]
    rfl

end Launched

end TypeProjection
