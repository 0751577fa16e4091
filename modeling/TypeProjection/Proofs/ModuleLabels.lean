import TypeProjection.Proofs.LoadedInputs

/-!
# Which modules inputs give

A module keeps its name for good, and a name only ever leads to a module of that name. So the
modules that inputs give are those of what the inputs ask for, one for each, in order.
-/

namespace TypeProjection

open Annotation
open Definition (Run Traces run_bind run_bind_ok)

namespace Annotation.World

variable {w w' w'' : World} {t : FileTree} {own : Option String} {paths : List String}
  {made : List ClassInfo} {module : String} {f : LoadedModule → LoadedModule}

/-- Every name leads to a module of this name. -/
def Labelled (w : World) : Prop :=
  ∀ module i, w.current.lookup module = some i → ∃ m, w.modules[i]? = some m ∧ m.name = module

/-- Modules keep their names, and names go on leading to modules of these names. -/
structure Labels (w w' : World) : Prop where
  kept : ∀ (i : Nat) m, w.modules[i]? = some m → ∃ m', w'.modules[i]? = some m' ∧ m'.name = m.name
  labelled : w.Labelled → w'.Labelled

theorem Labels.refl (w : World) : w.Labels w := ⟨fun _ m h => ⟨m, h, rfl⟩, id⟩

theorem Labels.trans (h : w.Labels w') (h' : w'.Labels w'') : w.Labels w'' where
  kept i m hm := by
    obtain ⟨m', hm', hname⟩ := h.kept i m hm
    obtain ⟨m'', hm'', hname'⟩ := h'.kept i m' hm'
    exact ⟨m'', hm'', hname'.trans hname⟩
  labelled hw := h'.labelled (h.labelled hw)

/-- Running a part of a module gives new modules their names. -/
theorem Ran.labels (h : w.Ran t own paths w' made) : w.Labels w' where
  kept i m hm := by
    obtain ⟨m', hm', hsame⟩ := h.modules i m hm
    exact ⟨m', hm', hsame.name⟩
  labelled hw module i hi := by
    rcases h.found module i hi with hi | ⟨-, hnew⟩
    · obtain ⟨m, hm, hname⟩ := hw module i hi
      obtain ⟨m', hm', hsame⟩ := h.modules i m hm
      exact ⟨m', hm', hsame.name.trans hname⟩
    · exact hnew

theorem labels_forgetModule : w.Labels (w.forgetModule module) where
  kept _ m hm := ⟨m, hm, rfl⟩
  labelled hw n i hi := by
    rw [current_forgetModule] at hi
    split at hi
    · cases hi
    · exact hw n i hi

theorem current_changeModule : (w.changeModule module f).current = w.current := by
  unfold changeModule
  split <;> rfl

theorem labels_changeModule (hf : ∀ m, (f m).name = m.name) :
    w.Labels (w.changeModule module f) := by
  unfold changeModule
  split
  next j _ =>
    have hget : ∀ (i : Nat) m, w.modules[i]? = some m →
        ∃ m', (w.modules.modify j f)[i]? = some m' ∧ m'.name = m.name := by
      intro i m hm
      rw [Array.getElem?_modify, hm]
      split
      · exact ⟨f m, rfl, hf m⟩
      · exact ⟨m, rfl, rfl⟩
    refine ⟨hget, fun hw n i hi => ?_⟩
    obtain ⟨m, hm, hname⟩ := hw n i hi
    obtain ⟨m', hm', hname'⟩ := hget i m hm
    exact ⟨m', hm', hname'.trans hname⟩
  · exact Labels.refl w

theorem labels_addModule (m : LoadedModule) : w.Labels (w.addModule m) where
  kept i e he := by
    refine ⟨e, ?_, rfl⟩
    change (w.modules.push m)[i]? = some e
    rw [Array.getElem?_push, if_neg, he]
    exact Nat.ne_of_lt (Array.getElem?_eq_some_iff.mp he).1
  labelled hw n i hi := by
    rw [current_addModule] at hi
    split at hi
    · next hn =>
      cases hi
      exact ⟨m, Array.getElem?_push_size, hn.symm⟩
    · obtain ⟨e, he, hname⟩ := hw n i hi
      refine ⟨e, ?_, hname⟩
      change (w.modules.push m)[i]? = some e
      rw [Array.getElem?_push, if_neg, he]
      exact Nat.ne_of_lt (Array.getElem?_eq_some_iff.mp he).1

/-- In a world with labels, the module of a name has this name. -/
theorem Labelled.finds (hw : w.Labelled) (h : (w.current.lookup module).isSome = true) :
    w.Finds module := by
  obtain ⟨i, hi⟩ := Option.isSome_iff_exists.mp h
  obtain ⟨m, hm, hname⟩ := hw module i hi
  exact ⟨i, m, hi, hm, hname⟩

end Annotation.World

/-! Running and importing modules. -/

section Modules

open SearchPath

variable {w : World} {s : SearchPath} {m : LoadedModule} {body : Run Unit} {module : String}

theorem labels_execute {content : FileContent} (hfound : w.Finds module) :
    w.Labels ((execute (s.importFrom module) module content).run.run w).2 := by
  have htraces : Traces s.tree (some module) content.classStatements w
      (execute (s.importFrom module) module content) := traces_execute fun _ _ _ => traces_importFrom
  have hown : ∀ n ∈ some module, w.Finds n := by
    intro n hn
    rwa [← Option.some.inj hn]
  obtain ⟨_, _, -, hran, -⟩ := htraces hown
  exact hran.labels

theorem labels_launch (hbody : ∀ w : World, w.Finds m.name → w.Labels (body.run.run w).2) :
    w.Labels ((launch m body).run.run w).2 := by
  have hadded := World.labels_addModule (w := w) m
  have hrun := hadded.trans (hbody _ (finds_addModule w m))
  rw [run_launch]
  rcases hresult : body.run.run (w.addModule m) with ⟨e | ⟨⟩, w'⟩
  · rw [hresult] at hrun
    exact hrun.trans World.labels_forgetModule
  · rw [hresult] at hrun
    exact hrun.trans (World.labels_changeModule fun _ => rfl)

theorem labels_importNamed {n : Nat} : w.Labels ((s.importNamed n module).run.run w).2 := by
  have hnone : ∀ n ∈ (none : Option String), w.Finds n := nofun
  obtain ⟨_, _, -, hran, -⟩ := traces_importNamed (s := s) n none module w hnone
  exact hran.labels

theorem labels_reload (hw : w.Labelled) : w.Labels ((s.reload module).run.run w).2 := by
  have hget : (get : Run World).run.run w = (.ok w, w) := rfl
  unfold reload
  rw [run_bind, hget]
  dsimp only
  split
  · exact World.Labels.refl w
  next hknown =>
  rcases s.foldersOf w module (cutLast module).1 with f | folders
  · exact World.Labels.refl w
  have hlifted : (Definition.lifted (.ok folders)).run.run w =
      (.ok folders, w) := rfl
  rw [run_bind, hlifted]
  dsimp only
  split
  · exact World.Labels.refl w
  · next file folders _ =>
    have hchanged : w.Labels (w.changeModule module fun m =>
        { m with file := some (absolute file), folders := folders }) :=
      World.labels_changeModule fun _ => rfl
    have hsome : (w.current.lookup module).isSome = true :=
      Option.isSome_iff_ne_none.mpr fun hnone => hknown (by rw [hnone]; rfl)
    refine hchanged.trans (labels_execute ((hchanged.labelled hw).finds ?_))
    rwa [World.current_changeModule]
  · exact World.Labels.refl w
  · exact World.labels_changeModule fun _ => rfl

end Modules

namespace Loading

open Annotation.World (Labels Labelled)

variable {α β : Type} {s s' : Session} {p : Path} {module : String} {h : ModuleHandle}
  {reload : Bool} {item : LoadItem} {items : List LoadItem} {modules : List InputModule}

/-- A step leaves modules their names, however it ends. -/
def Labelling (m : Loading α) : Prop :=
  ∀ s : Session, s.world.Labelled → s.world.Labels (m.run.run s).2.world

theorem labelling_pure {a : α} : Labelling (pure a) := fun s _ => Labels.refl s.world

theorem labelling_failed {f : InputFault} : Labelling (failed (α := α) f) :=
  fun s _ => Labels.refl s.world

theorem labelling_get : Labelling (get : Loading Session) := fun s _ => Labels.refl s.world

theorem labelling_modify {f : Session → Session} (hf : ∀ s : Session, s.world.Labels (f s).world) :
    Labelling (modify f : Loading Unit) := fun s _ => hf s

theorem labelling_bind {m : Loading α} {f : α → Loading β} (hm : Labelling m)
    (hf : ∀ a, Labelling (f a)) : Labelling (m >>= f) := by
  intro s hs
  have hfirst := hm s hs
  rw [run_bind]
  rcases hrun : m.run.run s with ⟨e | a, s'⟩
  · rw [hrun] at hfirst
    exact hfirst
  · rw [hrun] at hfirst
    exact hfirst.trans (hf a s' (hfirst.labelled hs))

theorem labelling_running {cause : Fault → InputFault} {body : Run α}
    (hbody : ∀ w : World, w.Labelled → w.Labels (body.run.run w).2) :
    Labelling (running cause body) := by
  intro s hs
  have hlabels := hbody s.world hs
  unfold running
  rw [run_bind]
  change s.world.Labels ((_ : Loading α).run.run s).2.world
  rcases hrun : body.run.run s.world with ⟨e | a, w⟩
  · rw [hrun] at hlabels
    exact hlabels
  · rw [hrun] at hlabels
    exact hlabels

theorem labelling_handleOf : Labelling (handleOf module) := by
  refine labelling_bind labelling_get fun s => ?_
  split
  · exact labelling_pure
  · exact labelling_pure

theorem labelling_launchFile {place : Place} {version : Option Nat} :
    Labelling (launchFile p place module version) := by
  refine labelling_bind labelling_get fun s => ?_
  split
  · exact labelling_failed
  · next body hbody =>
    have hlabels : ∀ w : World, w.Finds module → w.Labels (body.run.run w).2 := by
      intro w hw
      unfold bodyAt at hbody
      split at hbody
      · cases hbody
        exact labels_execute hw
      · cases hbody
    refine labelling_bind (labelling_running fun w _ => labels_launch hlabels) fun _ => ?_
    refine labelling_bind (labelling_modify fun s => ?_) fun _ => labelling_handleOf
    exact World.labels_changeModule fun _ => rfl

theorem labelling_loadFile : Labelling (loadFile p) := by
  refine labelling_bind labelling_get fun s => ?_
  refine labelling_bind (labelling_modify fun s => ?_) fun _ => ?_
  · split
    · exact Labels.refl s.world
    · exact Labels.refl s.world
  split
  · exact labelling_failed
  split
  · exact labelling_failed
  dsimp only
  refine labelling_bind labelling_get fun s => ?_
  split
  · exact labelling_handleOf
  refine labelling_bind (labelling_modify fun s => World.labels_forgetModule) fun _ => ?_
  split
  · exact labelling_launchFile
  · exact labelling_failed

theorem labelling_importInput : Labelling (importInput reload module) := by
  unfold importInput
  split
  · exact labelling_failed
  refine labelling_bind labelling_get fun s => ?_
  refine labelling_bind (labelling_running fun w _ => labels_importNamed) fun _ => ?_
  extract_lets finish
  split
  · exact labelling_bind (labelling_running fun w hw => labels_reload hw) fun _ =>
      labelling_handleOf
  · exact labelling_handleOf

theorem labelling_load : Labelling (load reload item) := by
  cases item with
  | file p => exact labelling_bind labelling_loadFile fun _ => labelling_pure
  | module name requested => exact labelling_bind labelling_importInput fun _ => labelling_pure

/-! What loading gives when it succeeds. -/

/-- The module is the one of what was asked for. -/
def Stands (w : World) : LoadItem → InputModule → Prop
  | .file p, m => ∃ (i : Nat) (e : LoadedModule), m = ⟨.loaded i, []⟩ ∧ w.modules[i]? = some e ∧
      moduleNameOf? ⟨"/", p⟩ = some e.name
  | .module name requested, m => m.requested = requested ∧ (m.handle = .library name ∨
      ∃ (i : Nat) (e : LoadedModule), m.handle = .loaded i ∧ w.modules[i]? = some e ∧ e.name = name)

theorem Stands.labels {w w' : World} {m : InputModule} (h : Stands w item m) (hl : w.Labels w') :
    Stands w' item m := by
  cases item with
  | file p =>
    obtain ⟨i, e, hm, he, hname⟩ := h
    obtain ⟨e', he', hname'⟩ := hl.kept i e he
    exact ⟨i, e', hm, he', by rw [hname, hname']⟩
  | module name requested =>
    obtain ⟨hrequested, hlibrary | ⟨i, e, hm, he, hname⟩⟩ := h
    · exact ⟨hrequested, .inl hlibrary⟩
    · obtain ⟨e', he', hname'⟩ := hl.kept i e he
      exact ⟨hrequested, .inr ⟨i, e', hm, he', hname'.trans hname⟩⟩

theorem importInput_ok (hrun : (importInput reload module).run.run s = (.ok h, s')) :
    (handleOf module).run.run s' = (.ok h, s') := by
  have hget : ∀ s, (get : Loading Session).run.run s = (.ok s, s) := fun _ => rfl
  have hlast : ∀ s, (handleOf module).run.run s = (.ok h, s') →
      (handleOf module).run.run s' = (.ok h, s') := by
    intro s hrun
    obtain ⟨rfl, -⟩ := handleOf_ok hrun
    exact hrun
  unfold importInput at hrun
  split at hrun
  · cases hrun
  rw [run_bind, hget] at hrun
  obtain ⟨⟨⟩, s₁, -, hrun⟩ := run_bind_ok.mp hrun
  split at hrun
  · obtain ⟨⟨⟩, s₂, -, hrun⟩ := run_bind_ok.mp hrun
    exact hlast s₂ hrun
  · exact hlast s₁ hrun

theorem stands_load {m : InputModule} (hs : s.world.Labelled)
    (hplain : ∀ p ∈ LoadItem.places [item], FileTree.Plain p)
    (hrun : (load reload item).run.run s = (.ok m, s')) : Stands s'.world item m := by
  have hlabels : s.world.Labels ((load reload item).run.run s).2.world := labelling_load s hs
  rw [hrun] at hlabels
  cases item with
  | file p =>
    obtain ⟨h, s₁, hload, hrun⟩ := run_bind_ok.mp hrun
    cases hrun
    obtain ⟨module, hmodule, htree, hcases⟩ := loadFile_ok (hplain p (List.mem_cons_self ..)) hload
    obtain ⟨hfound, hhandle⟩ : (s'.world.current.lookup module).isSome = true ∧
        (handleOf module).run.run s' = (.ok h, s') := by
      rcases hcases with ⟨hknown, hworld, hhandle⟩ | ⟨w, version, hlaunch, hworld, hhandle⟩
      · refine ⟨?_, hhandle⟩
        rw [hworld]
        refine Option.isSome_iff_ne_none.mpr fun hnone => ?_
        rw [World.loaded?, hnone] at hknown
        cases hknown
      · refine ⟨?_, hhandle⟩
        rw [show s'.searchPath = ⟨s.tree, s'.folders⟩ by rw [Session.searchPath, htree]] at hlaunch
        have hforgotten : (s.world.forgetModule module).current.lookup module = none :=
          (current_forgetModule s.world module module).trans (if_pos rfl)
        obtain ⟨_, _, -, -, -, hcurrent, -⟩ := executed_of_launch hforgotten hlaunch
        rw [hworld, World.current_changeModule, hcurrent]
        rfl
    obtain ⟨i, e, hi, he, hname⟩ := (hlabels.labelled hs).finds hfound
    obtain ⟨-, rfl⟩ := handleOf_ok hhandle
    exact ⟨i, e, by rw [hi], he, by rw [hmodule, hname]⟩
  | module name requested =>
    obtain ⟨h, s₁, himport, hrun⟩ := run_bind_ok.mp hrun
    cases hrun
    obtain ⟨-, rfl⟩ := handleOf_ok (importInput_ok himport)
    refine ⟨rfl, ?_⟩
    cases hi : s'.world.current.lookup name with
    | none => exact .inl rfl
    | some i =>
      obtain ⟨e, he, hname⟩ := hlabels.labelled hs name i hi
      exact .inr ⟨i, e, rfl, he, hname⟩

/-- What is asked for gives modules in its order, if all of it is loaded. -/
theorem stands_loads (hs : s.world.Labelled)
    (hplain : ∀ p ∈ LoadItem.places items, FileTree.Plain p)
    (hrun : (items.mapM (load reload)).run.run s = (.ok modules, s')) :
    s.world.Labels s'.world ∧ List.Forall₂ (Stands s'.world) items modules := by
  induction items generalizing s modules with
  | nil =>
    cases hrun
    exact ⟨Labels.refl _, .nil⟩
  | cons item rest ih =>
    rw [List.mapM_cons] at hrun
    obtain ⟨m, s₁, hload, hrun⟩ := run_bind_ok.mp hrun
    obtain ⟨ms, s₂, hmore, hrun⟩ := run_bind_ok.mp hrun
    cases hrun
    have hsplit : LoadItem.places (item :: rest) = LoadItem.places [item] ++ LoadItem.places rest :=
      @LoadItem.places_append [item] rest
    have hlabels : s.world.Labels ((load reload item).run.run s).2.world := labelling_load s hs
    rw [hload] at hlabels
    have hfirst := stands_load hs
      (fun p hp => hplain p (by rw [hsplit]; exact List.mem_append_left _ hp)) hload
    obtain ⟨hlabels', hrest⟩ := ih (hlabels.labelled hs)
      (fun p hp => hplain p (by rw [hsplit]; exact List.mem_append_right _ hp)) hmore
    exact ⟨hlabels.trans hlabels', .cons (hfirst.labels hlabels') hrest⟩

end Loading

end TypeProjection
