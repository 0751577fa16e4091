import TypeProjection.Proofs.SoundRuns
import TypeProjection.Session.Inputs

/-!
# The worlds that loading makes

A world is loaded if it comes from the first one by running modules: a module on its own, or the
modules that inputs of a session name, with all that these import. Every loaded world is closed,
whatever its modules hold and however their runs end.
-/

namespace TypeProjection

open Annotation Definition

section Imports

variable {α : Type} {w : World} {s : SearchPath} {module name : String}

open SearchPath

theorem leads_importedName : Leads w (importedName module name) World.Sound := by
  refine leads_of_closed fun hw => leads_look ?_
  split
  · next v hv => exact leads_pure (World.sound_moduleName hw hv)
  · dsimp only
    split
    · exact leads_pure World.sound_module
    · exact leads_failing

theorem keeps_execute {importFrom : String → List String → Run (List Value)}
    (hi : Imports importFrom) {content : FileContent} :
    Keeps w (execute importFrom module content) := by
  unfold execute
  split
  · exact leads_pure trivial
  · exact keeps_runDefinitions hi _

/-- A module without names. -/
theorem keeps_addModule {m : LoadedModule} (hm : m.names = []) :
    Keeps w (modify fun w => w.addModule m) :=
  leads_modify fun hw => World.closed_addModule hw (hm ▸ fun _ h => (List.not_mem_nil h).elim)

theorem keeps_forgetModule : Keeps w (modify fun w => w.forgetModule module) :=
  leads_modify fun hw => World.closed_forgetModule hw module

/-- A change of a module that leaves its names. -/
theorem keeps_changeModule {f : LoadedModule → LoadedModule} (hf : ∀ m, (f m).names = m.names) :
    Keeps w (modify fun w => w.changeModule module f) :=
  leads_modify fun hw => World.closed_changeModule hw module fun m hm => (hf m).symm ▸ hm

theorem keeps_launch {m : LoadedModule} {body : Run Unit} (hm : m.names = [])
    (hbody : ∀ w', w'.Closed → w.Grown w' → Keeps w' body) : Keeps w (launch m body) := by
  refine (keeps_addModule hm).bind fun _ w₁ hw₁ hg₁ _ => ?_
  refine (leads_tryCatch (hbody w₁ hw₁ hg₁) fun f w₂ _ _ => ?_).bind fun _ w₃ _ _ _ => ?_
  · exact keeps_forgetModule.bind fun _ _ _ _ _ => leads_failing
  · exact keeps_changeModule fun _ => rfl

theorem keeps_load {importFrom : String → List String → Run (List Value)}
    (hi : Imports importFrom) {found : Found} : Keeps w (load s importFrom module found) := by
  unfold load
  split
  · exact keeps_launch rfl fun _ _ _ => keeps_execute hi
  · exact leads_failing
  · exact keeps_addModule rfl

theorem keeps_attach : Keeps w (attach module) := by
  unfold attach
  split
  · exact leads_modify fun hw => World.closed_changeModule hw _ fun _ hm =>
      World.soundNames_putPair hm _ World.sound_module
  · exact leads_pure trivial

theorem keeps_importIfMissing {importNamed : String → Run Unit}
    (hi : ∀ (w : World) (module : String), Keeps w (importNamed module)) :
    Keeps w (importIfMissing importNamed module name) := by
  refine leads_look ?_
  extract_lets isPackage full
  split
  · refine leads_tryCatch (hi w full) fun f w' _ _ => ?_
    split
    · exact leads_pure trivial
    · exact leads_failing
  · exact leads_pure trivial

/-- If importing a module keeps the world closed, then what is imported from it is sound. -/
theorem imports_importWith {importNamed : String → Run Unit}
    (hi : ∀ (w : World) (module : String), Keeps w (importNamed module)) (importer : String) :
    Imports (importWith importNamed importer) := by
  intro written names w
  refine leads_look (leads_lifted_bind fun source _ => ?_)
  refine (hi w source).bind fun _ w₁ _ _ _ => ?_
  refine (leads_forM fun n _ w₂ _ _ => keeps_importIfMissing hi).bind fun _ w₂ _ _ _ => ?_
  exact leads_mapM lasting_sound fun n _ w₃ _ _ => leads_importedName

theorem keeps_importNamed {n : Nat} : Keeps w (importNamed s n module) := by
  induction n generalizing w module with
  | zero => exact leads_failing
  | succ n ih =>
    rw [importNamed]
    split
    · exact leads_failing
    refine leads_look ?_
    split
    · exact leads_pure trivial
    split
    next package name _ =>
    extract_lets find
    have hfind : ∀ w', Keeps w' (find ()) := by
      intro w'
      refine leads_look ?_
      split
      · exact leads_pure trivial
      refine leads_look (leads_lifted_bind fun folders _ => ?_)
      dsimp only
      split
      · exact leads_failing
      · refine (keeps_load (imports_importWith (fun _ _ => ih) module)).bind fun _ _ _ _ _ => ?_
        exact keeps_attach
    split
    · exact ih.bind fun _ w' _ _ _ => hfind w'
    · exact hfind w

theorem imports_importFrom (importer : String) : Imports (s.importFrom importer) :=
  fun written names w => imports_importWith (fun _ _ => keeps_importNamed) importer written names w

theorem keeps_reload : Keeps w (s.reload module) := by
  refine leads_look ?_
  split
  · exact leads_pure trivial
  split
  refine leads_lifted_bind fun folders _ => ?_
  dsimp only
  split
  · exact leads_failing
  · refine Leads.bind (keeps_changeModule fun _ => rfl) fun _ w' _ _ _ => ?_
    exact keeps_execute (imports_importFrom module)
  · exact leads_failing
  · exact keeps_changeModule fun _ => rfl

end Imports

/-! Sessions. -/

section Sessions

variable {α β : Type} {s : Session}

/-- Loading leaves a closed world closed, however it ends. -/
def Stays (m : Loading α) : Prop := ∀ s : Session, s.world.Closed → (m.run.run s).2.world.Closed

theorem stays_pure {a : α} : Stays (pure a) := fun _ h => h

theorem stays_failed {f : InputFault} : Stays (Loading.failed (α := α) f) := fun _ h => h

theorem stays_bind {m : Loading α} {f : α → Loading β} (hm : Stays m) (hf : ∀ a, Stays (f a)) :
    Stays (m >>= f) := by
  intro s hs
  have hw := hm s hs
  rw [run_bind]
  rcases hrun : m.run.run s with ⟨e | a, s'⟩
  · rw [hrun] at hw
    exact hw
  · rw [hrun] at hw
    exact hf a s' hw

theorem stays_get : Stays (get : Loading Session) := fun _ h => h

theorem stays_modify {f : Session → Session}
    (h : ∀ s : Session, s.world.Closed → (f s).world.Closed) :
    Stays (modify f : Loading Unit) := h

theorem stays_running {cause : Fault → InputFault} {body : Run α} {Q : World → α → Prop}
    (h : ∀ w, Leads w body Q) : Stays (Loading.running cause body) := by
  intro s hs
  have hw := (h s.world hs).1
  unfold Loading.running
  rw [run_bind]
  change ((_ : Loading α).run.run s).2.world.Closed
  rcases hrun : body.run.run s.world with ⟨e | a, w⟩
  · rw [hrun] at hw
    exact hw
  · rw [hrun] at hw
    exact hw

section Loading

open Loading

variable {input module : String} {reload : Bool}

theorem stays_handleOf : Stays (handleOf module) := by
  refine stays_bind stays_get fun s => ?_
  split
  · exact stays_pure
  · exact stays_pure

theorem stays_addFolder {p : Place} : Stays (addFolder p) := by
  refine stays_modify fun s hs => ?_
  split
  · exact hs
  · exact hs

theorem keeps_bodyAt {p : Path} {place : Place} {body : Run Unit} {w : World}
    (h : bodyAt s module p place = .ok body) : Keeps w body := by
  unfold bodyAt at h
  split at h
  · cases h
    exact keeps_execute (imports_importFrom module)
  · cases h

theorem stays_launchFile {p : Path} {place : Place} {version : Option Nat} :
    Stays (launchFile p place module version) := by
  refine stays_bind stays_get fun s => ?_
  split
  · exact stays_failed
  · next body hbody =>
    have hlaunch : ∀ w, Keeps w (SearchPath.launch ⟨module, [], some p.text, none, none, false⟩
        body) := fun w => keeps_launch rfl fun _ _ _ => keeps_bodyAt hbody
    refine stays_bind (stays_running hlaunch) fun _ => ?_
    refine stays_bind (stays_modify fun s hs => ?_) fun _ => stays_handleOf
    exact (World.closed_changeModule hs module (f := fun m => { m with version := version })
      fun m hm => hm).1

theorem stays_loadFile {p : Path} : Stays (loadFile p) := by
  refine stays_bind stays_get fun s => ?_
  refine stays_bind stays_addFolder fun _ => ?_
  split
  · exact stays_failed
  split
  · exact stays_failed
  dsimp only
  refine stays_bind stays_get fun s => ?_
  split
  · exact stays_handleOf
  refine stays_bind (stays_modify fun s hs => ?_) fun _ => ?_
  · exact (World.closed_forgetModule hs _).1
  split
  · exact stays_launchFile
  · exact stays_failed

theorem stays_importInput : Stays (importInput reload module) := by
  unfold importInput
  split
  · exact stays_failed
  refine stays_bind stays_get fun s => ?_
  refine stays_bind (stays_running fun w => keeps_importNamed) fun _ => ?_
  extract_lets finish
  split
  · exact stays_bind (stays_running fun w => keeps_reload) fun _ => stays_handleOf
  · exact stays_handleOf

theorem stays_loadFiles {done : List Place} {places : List Place} :
    Stays (loadFiles done places) := by
  induction places generalizing done with
  | nil => exact stays_pure
  | cons p rest ih =>
    rw [loadFiles]
    split
    · exact ih
    · refine stays_bind stays_loadFile fun h => ?_
      exact stays_bind ih fun _ => stays_pure

theorem stays_loadFrom {done : List Place} {inputs : List String} :
    Stays (loadFrom reload done inputs) := by
  induction inputs generalizing done with
  | nil => exact stays_pure
  | cons input rest ih =>
    rw [loadFrom]
    refine stays_bind stays_get fun s => ?_
    dsimp only
    split
    · exact stays_failed
    split
    · split
      · exact stays_failed
      · refine stays_bind stays_loadFiles fun _ => ?_
        exact stays_bind ih fun _ => stays_pure
    · refine stays_bind stays_importInput fun h => ?_
      exact stays_bind ih fun _ => stays_pure

end Loading

end Sessions

/-- The worlds that come about when modules are run: alone, or because the inputs of a session ask
for them. -/
inductive Annotation.World.Loaded : World → Prop
  | initial : Loaded World.initial
  | alone {w : World} (module : String) (source : Source) :
    Loaded w → Loaded (runAlone w module source).1
  | session {s : Session} (reload : Bool) (inputs : List String) :
    Loaded s.world → Loaded ((Loading.loadInputs reload inputs).run.run s).2.world

theorem closed_initial : World.initial.Closed where
  library := Nat.le_refl _
  classes h := nomatch h
  bounds {i v} h := by
    have hv : v ∈ libraryVariables := List.mem_of_getElem? (by simpa [World.initial] using h)
    simp only [libraryVariables, List.mem_cons, List.not_mem_nil, or_false] at hv
    rcases hv with rfl | rfl | rfl | rfl | rfl | rfl | rfl | rfl | rfl
    all_goals simp [builtin]
  supertypes h := nomatch h
  older h := nomatch h
  names h := nomatch h

theorem keeps_runAlone {w : World} (hw : w.Closed) (module : String) (source : Source) :
    (runAlone w module source).1.Closed := by
  have hnew := (World.closed_addModule hw (m := ⟨module, [], none, none, none, true⟩)
    fun _ h => (List.not_mem_nil h).elim).1
  have hkeeps : ∀ w', Keeps w' (SearchPath.execute (SearchPath.importFrom ⟨.empty [], []⟩ module)
      module (.definitions source)) := fun _ => keeps_execute (imports_importFrom module)
  exact (hkeeps _ hnew).1

/-- All that a loaded world stores is sound. -/
theorem closed_of_loaded {w : World} (h : w.Loaded) : w.Closed := by
  induction h with
  | initial => exact closed_initial
  | alone module source _ ih => exact keeps_runAlone ih module source
  | session reload inputs _ ih => exact stays_loadFrom _ ih

end TypeProjection
