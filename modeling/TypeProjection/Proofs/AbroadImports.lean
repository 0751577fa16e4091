import Mathlib.Data.List.TakeWhile
import TypeProjection.Proofs.RenamedDefinitions
import TypeProjection.Session.Import

/-!
# Imports from abroad

A module is abroad if the library has it, or no folder that is searched holds anything under its
first name, and no module was run under such a name. Importing it runs nothing. What the import
gives, or fails with, depends neither on where modules are looked for nor on the modules that have
been run.
-/

namespace TypeProjection

open Annotation Definition

/-- The first name of a dotted name. -/
def headOf (module : String) : String := String.ofList (module.toList.takeWhile (· != '.'))

/-- The modules of a world have names of some kind. -/
def Annotation.World.Within (N : String → Prop) (w : World) : Prop :=
  ∀ n i, w.current.lookup n = some i → N n

/-- The library has the module, or nothing is found under its first name; and no module of the kind
begins with that name. -/
structure Abroad (s : SearchPath) (N : String → Prop) (module : String) : Prop where
  apart : ∀ n, N n → headOf n ≠ headOf module
  absent : headOf module ∈ libraryModules ∨
    ∀ folder ∈ s.folders, SearchPath.findIn s.tree (headOf module) folder = none

/-- What is abroad is so for a search that finds nothing. -/
theorem Abroad.nowhere {s : SearchPath} {N : String → Prop} {module : String} {t : FileTree}
    (h : Abroad s N module) : Abroad ⟨t, []⟩ N module :=
  ⟨h.apart, .inr fun _ hf => (List.not_mem_nil hf).elim⟩

namespace SearchPath

variable {module name package written importer : String} {names : List String}
  {N : String → Prop} {s : SearchPath} {w : World} {t : FileTree}

/-- A name is cut at a point. -/
theorem cutLast_some (h : cutLast module = (some package, name)) :
    module.toList = package.toList ++ '.' :: name.toList := by
  have hsplit := List.takeWhile_append_dropWhile (p := (· != '.')) (l := module.toList.reverse)
  unfold cutLast at h
  dsimp only at h
  split at h
  · cases h
  · next hlength =>
    simp only [Prod.mk.injEq, Option.some.injEq] at h
    obtain ⟨rfl, rfl⟩ := h
    rcases hrest : module.toList.reverse.dropWhile (· != '.') with _ | ⟨c, d⟩
    · rw [hrest, List.append_nil] at hsplit
      rw [hsplit, List.reverse_reverse] at hlength
      exact (hlength (beq_iff_eq.mpr String.length_toList)).elim
    · have hc : c = '.' := by
        have hhead := List.head?_dropWhile_not (· != '.') module.toList.reverse
        rw [hrest] at hhead
        simpa using hhead
      rw [hrest, hc] at hsplit
      generalize module.toList.reverse.takeWhile (· != '.') = last at hsplit
      have hmodule : module.toList = d.reverse ++ '.' :: last.reverse := by
        rw [← List.reverse_reverse module.toList, ← hsplit]
        simp
      have hcut : module.length - last.reverse.length - 1 = d.reverse.length := by
        rw [← String.length_toList, hmodule]
        simp only [List.length_append, List.length_cons]
        omega
      rw [hcut, String.toList_ofList, String.toList_ofList, hmodule, List.take_left]

/-- A name that is not cut has no point. -/
theorem cutLast_none (h : cutLast module = (none, name)) : name = module ∧ '.' ∉ module.toList := by
  have hsplit := List.takeWhile_append_dropWhile (p := (· != '.')) (l := module.toList.reverse)
  unfold cutLast at h
  dsimp only at h
  split at h
  · next hlength =>
    cases h
    have hrest : module.toList.reverse.dropWhile (· != '.') = [] := by
      have hsum := congrArg List.length hsplit
      have hlast := beq_iff_eq.mp hlength
      rw [List.length_reverse, ← String.length_toList] at hlast
      rw [List.length_append, List.length_reverse] at hsum
      exact List.eq_nil_of_length_eq_zero (by omega)
    refine ⟨rfl, fun hmem => ?_⟩
    have hall := List.dropWhile_eq_nil_iff.mp hrest '.' (List.mem_reverse.mpr hmem)
    simp at hall
  · cases h

theorem headOf_eq_self (h : '.' ∉ module.toList) : headOf module = module := by
  have hall : module.toList.takeWhile (· != '.') = module.toList :=
    List.takeWhile_eq_self_iff.mpr fun c hc => bne_iff_ne.mpr fun heq => h (heq ▸ hc)
  rw [headOf, hall, String.ofList_toList]

/-- A package begins with the name that its modules begin with. -/
theorem headOf_package (h : module.toList = package.toList ++ '.' :: name.toList) :
    headOf module = headOf package := by
  unfold headOf
  rw [h]
  generalize package.toList = cs
  congr 1
  induction cs with
  | nil => rfl
  | cons c cs ih =>
    rw [List.cons_append, List.takeWhile_cons, List.takeWhile_cons]
    split
    · exact congrArg (c :: ·) ih
    · rfl

theorem findAmong_none {folders : List Place} (h : ∀ folder ∈ folders, findIn t name folder = none) :
    findAmong t name folders = none := by
  induction folders with
  | nil => rfl
  | cons folder rest ih =>
    obtain ⟨hfolder, hrest⟩ := List.forall_mem_cons.mp h
    rw [findAmong, hfolder]
    exact ih hrest

theorem lookup_abroad (ha : Abroad s N module) (hw : w.Within N) (hhead : headOf name = headOf module) :
    w.current.lookup name = none := by
  cases hi : w.current.lookup name with
  | none => rfl
  | some i => exact (ha.apart name (hw name i hi) hhead).elim

theorem loaded?_abroad (ha : Abroad s N module) (hw : w.Within N)
    (hhead : headOf name = headOf module) : w.loaded? name = none := by
  rw [World.loaded?, lookup_abroad ha hw hhead]
  rfl

theorem isKnown_abroad (ha : Abroad s N module) (hw : w.Within N)
    (hhead : headOf name = headOf module) : isKnown w name = libraryModules.contains name := by
  rw [isKnown, lookup_abroad ha hw hhead]
  rfl

/-- What is left to do for a module that is not known, once its package is. -/
def importFound (s : SearchPath) (fuel : Nat) (module name : String) (package : Option String) :
    Run Unit := do
  if isKnown (← get) module then pure ()
  else
    let folders ← lifted (s.foldersOf (← get) module package)
    match findAmong s.tree name folders with
    | none => failing (missing module)
    | some found =>
      s.load (importWith (s.importNamed fuel) module) module found
      attach module

/-- Importing the package around a module, if there is one. -/
def importPackage (s : SearchPath) (fuel : Nat) : Option String → Run Unit
  | some p => s.importNamed fuel p
  | none => pure ()

theorem importNamed_succ (fuel : Nat) : s.importNamed (fuel + 1) module =
    (if module == "" then failing (.wrongValue "Empty module name")
    else do
      if isKnown (← get) module then pure ()
      else
        s.importPackage fuel (cutLast module).1
        s.importFound fuel module (cutLast module).2 (cutLast module).1) := by
  rw [importNamed]
  obtain ⟨package, name⟩ := cutLast module
  cases package <;> rfl

theorem run_look {α : Type} (f : World → Run α) (w : World) :
    (get >>= f).run.run w = (f w).run.run w := rfl

/-- Importing a module from abroad gives or fails with the same wherever that is done, and changes
nothing. -/
theorem run_importNamed_abroad (module : String) :
    ∃ r : Except Fault Unit, ∀ (s : SearchPath) (w : World) (fuel : Nat) (N : String → Prop),
      Abroad s N module → w.Within N → module.length < fuel →
        (s.importNamed fuel module).run.run w = (r, w) := by
  induction hn : module.length using Nat.strongRecOn generalizing module with
  | ind n ih =>
    subst hn
    by_cases hempty : module == ""
    · refine ⟨.error (.wrongValue "Empty module name"), fun s w fuel N ha hw hfuel => ?_⟩
      obtain ⟨fuel, rfl⟩ := Nat.exists_eq_add_one_of_ne_zero (Nat.ne_zero_of_lt hfuel)
      rw [importNamed_succ, if_pos hempty]
      rfl
    by_cases hlib : libraryModules.contains module
    · refine ⟨.ok (), fun s w fuel N ha hw hfuel => ?_⟩
      obtain ⟨fuel, rfl⟩ := Nat.exists_eq_add_one_of_ne_zero (Nat.ne_zero_of_lt hfuel)
      rw [importNamed_succ, if_neg hempty, run_look, isKnown_abroad ha hw rfl, if_pos hlib]
      rfl
    rcases hcut : cutLast module with ⟨_ | package, name⟩
    · refine ⟨.error (missing module), fun s w fuel N ha hw hfuel => ?_⟩
      obtain ⟨fuel, rfl⟩ := Nat.exists_eq_add_one_of_ne_zero (Nat.ne_zero_of_lt hfuel)
      obtain ⟨rfl, hpoint⟩ := cutLast_none hcut
      have habsent : ∀ folder ∈ s.folders, findIn s.tree name folder = none := by
        have hhead := headOf_eq_self hpoint
        refine hhead ▸ ha.absent.resolve_left fun hmem => ?_
        exact hlib (List.contains_iff_mem.mpr (hhead ▸ hmem))
      rw [importNamed_succ, if_neg hempty, run_look, isKnown_abroad ha hw rfl, if_neg hlib, hcut]
      change (importFound s fuel name name none).run.run w = _
      rw [importFound, run_look, isKnown_abroad ha hw rfl, if_neg hlib, run_look]
      change (match findAmong s.tree name s.folders with
        | none => failing (missing name)
        | some found => _ : Run Unit).run.run w = _
      rw [findAmong_none habsent]
      rfl
    · have hname := cutLast_some hcut
      have hhead := headOf_package hname
      have hlength : package.length < module.length := by
        rw [← String.length_toList, ← String.length_toList (s := module), hname]
        simp
      obtain ⟨r, hr⟩ := ih package.length hlength package rfl
      refine ⟨r >>= fun _ => if libraryPackages.contains package then .error (missing module)
        else .error (foldersOf.noPackage module package), fun s w fuel N ha hw hfuel => ?_⟩
      obtain ⟨fuel, rfl⟩ := Nat.exists_eq_add_one_of_ne_zero (Nat.ne_zero_of_lt hfuel)
      have hpackage : Abroad s N package := by
        refine ⟨fun n hn => ?_, ?_⟩
        · rw [← hhead]
          exact ha.apart n hn
        · rw [← hhead]
          exact ha.absent
      rw [importNamed_succ, if_neg hempty, run_look, isKnown_abroad ha hw rfl, if_neg hlib, hcut]
      change (s.importNamed fuel package >>= fun _ =>
        importFound s fuel module name (some package)).run.run w = _
      rw [run_bind, hr s w fuel N hpackage hw (by omega)]
      cases r with
      | error e => rfl
      | ok u =>
        change (importFound s fuel module name (some package)).run.run w = _
        rw [importFound, run_look, isKnown_abroad ha hw rfl, if_neg hlib, run_look]
        have hfolders : s.foldersOf w module (some package) =
            if libraryPackages.contains package then .error (missing module)
            else .error (foldersOf.noPackage module package) := by
          dsimp only [foldersOf]
          rw [loaded?_abroad ha hw hhead.symm]
        rw [hfolders]
        cases libraryPackages.contains package <;> rfl

/-- The value of a name that is imported from a module abroad. -/
def importedAbroad (module name : String) : Except Fault Value :=
  match World.initial.moduleName? module name with
  | some v => .ok v
  | none =>
    if libraryModules.contains (module ++ "." ++ name) then .ok (.module (module ++ "." ++ name))
    else .error (missingName .initial module name)

theorem common_importedAbroad : Gives (importedAbroad module name) Value.Common := by
  intro v hv
  unfold importedAbroad at hv
  split at hv
  · next h =>
    cases hv
    exact World.common_moduleName rfl h
  · split at hv
    · next h =>
      cases hv
      exact ⟨fun _ => rfl, fun _ => Value.homely_module.mpr (List.contains_iff_mem.mp h)⟩
    · cases hv

theorem run_importedName_abroad (ha : Abroad s N module) (hw : w.Within N) (name : String) :
    (importedName module name).run.run w = (importedAbroad module name, w) := by
  have hnone : w.loaded? module = none := loaded?_abroad ha hw rfl
  have hname : w.moduleName? module name = World.initial.moduleName? module name := by
    unfold World.moduleName?
    rw [hnone]
    rfl
  have hsplit : (module ++ "." ++ name).toList = module.toList ++ '.' :: name.toList := by
    rw [String.toList_append, String.toList_append, List.append_assoc]
    rfl
  have hhead : headOf (module ++ "." ++ name) = headOf module := headOf_package hsplit
  have hmissing : missingName w module name = missingName .initial module name := by
    unfold missingName
    rw [hnone]
    rfl
  rw [importedName, run_look, hname, importedAbroad]
  cases World.initial.moduleName? module name with
  | some v => rfl
  | none =>
    dsimp only
    rw [isKnown_abroad ha hw hhead, hmissing]
    split <;> rfl

/-- The name of an import does not begin with a point. -/
def IsAbsolute (written : String) : Prop := (written.toList.takeWhile (· == '.')).isEmpty = true

instance (written : String) : Decidable (IsAbsolute written) := inferInstanceAs (Decidable (_ = true))

/-- What a module imports is abroad, or relative to a module outside of all packages. -/
def IsAbroad (s : SearchPath) (N : String → Prop) (importer written : String) : Prop :=
  if IsAbsolute written then Abroad s N written else '.' ∉ importer.toList

/-- A module outside of all packages imports nothing relative to it. -/
theorem absoluteName_relative (himporter : '.' ∉ importer.toList)
    (hfolders : (w.loaded? importer).bind LoadedModule.folders = none)
    (hwritten : ¬ IsAbsolute written) : absoluteName w importer written =
      .error (.notImportable "attempted relative import with no known parent package") := by
  have hcut : (cutLast importer).1 = none := by
    rcases h : cutLast importer with ⟨_ | package, name⟩
    · rfl
    · have hname := cutLast_some h
      exact (himporter (hname ▸ List.mem_append_right _ (List.mem_cons_self ..))).elim
  unfold absoluteName
  dsimp only
  rw [Bool.eq_false_iff.mpr hwritten, hfolders, hcut]
  rfl

theorem absoluteName_absolute (hwritten : IsAbsolute written) :
    absoluteName w importer written = .ok written := by
  unfold absoluteName
  dsimp only
  rw [hwritten]
  rfl

/-- A module abroad has no submodules that could be missing. -/
theorem run_importIfMissing_abroad (ha : Abroad s N module) (hw : w.Within N)
    (importNamed : String → Run Unit) (name : String) :
    (importIfMissing importNamed module name).run.run w = (.ok (), w) := by
  rw [importIfMissing, run_look, loaded?_abroad ha hw rfl]
  rfl

theorem run_forM_still {α : Type} {f : α → Run Unit} {xs : List α}
    (h : ∀ x, (f x).run.run w = (.ok (), w)) : (xs.forM f).run.run w = (.ok (), w) := by
  induction xs with
  | nil => rfl
  | cons x xs ih =>
    change (f x >>= fun _ => xs.forM f).run.run w = _
    rw [run_bind, h]
    exact ih

theorem run_mapM_still {α β : Type} {f : α → Run β} {g : α → Except Fault β} {xs : List α}
    (h : ∀ x, (f x).run.run w = (g x, w)) : (xs.mapM f).run.run w = (xs.mapM g, w) := by
  induction xs with
  | nil => rfl
  | cons x xs ih =>
    rw [List.mapM_cons, List.mapM_cons, run_bind, h]
    cases g x with
    | error e => rfl
    | ok y =>
      change (xs.mapM f >>= fun ys => pure (y :: ys)).run.run w = _
      rw [run_bind, ih]
      cases xs.mapM g <;> rfl

/-- The values of names that a module imports from another, with some fuel for each of these. -/
def importWithin (s : SearchPath) (fuel : String → Nat) (importer written : String)
    (names : List String) : Run (List Value) :=
  importWith (s.importNamed (fuel written)) importer written names

/-- What a module imports from abroad is the same wherever that is done, and nothing else is
changed. -/
theorem run_importWithin_abroad (importer written : String) (names : List String) :
    ∃ r : Except Fault (List Value), Gives r (fun vs => ∀ v ∈ vs, v.Common) ∧
      ∀ (s : SearchPath) (w : World) (N : String → Prop) (fuel : String → Nat),
        IsAbroad s N importer written → w.Within N →
        ((w.loaded? importer).bind LoadedModule.folders = none ∨ IsAbsolute written) →
        written.length < fuel written →
          (s.importWithin fuel importer written names).run.run w = (r, w) := by
  by_cases hwritten : IsAbsolute written
  swap
  · refine ⟨.error (.notImportable "attempted relative import with no known parent package"),
      gives_error, fun s w N fuel ha _ hfolders _ => ?_⟩
    rw [IsAbroad, if_neg hwritten] at ha
    rw [importWithin, importWith, run_look,
      absoluteName_relative ha (hfolders.resolve_right hwritten) hwritten]
    rfl
  · obtain ⟨r, hr⟩ := run_importNamed_abroad written
    refine ⟨r >>= fun _ => names.mapM (importedAbroad written), ?_,
      fun s w N fuel ha hw _ hfuel => ?_⟩
    · refine gives_bind.mpr fun _ _ => (gives_mapM fun name _ => common_importedAbroad).mono ?_
      exact fun _ h => h.2
    · rw [IsAbroad, if_pos hwritten] at ha
      rw [importWithin, importWith, run_look, absoluteName_absolute hwritten]
      change (s.importNamed (fuel written) written >>= fun _ =>
        names.forM (importIfMissing (s.importNamed (fuel written)) written) >>= fun _ =>
          names.mapM (importedName written)).run.run w = _
      rw [run_bind, hr s w _ N ha hw hfuel]
      cases r with
      | error e => rfl
      | ok u =>
        change (names.forM _ >>= fun _ => names.mapM (importedName written)).run.run w = _
        rw [run_bind, run_forM_still fun name => run_importIfMissing_abroad ha hw _ name]
        exact run_mapM_still fun name => run_importedName_abroad ha hw name

/-- The imports of a module with a source are abroad. -/
def ImportsAbroad (s : SearchPath) (N : String → Prop) (importer : String) (content : FileContent) :
    Prop :=
  ∀ source, content = .definitions source → ∀ written names,
    ModuleItem.imports written names ∈ source.definitions → IsAbroad s N importer written

theorem ImportsAbroad.nowhere {content : FileContent} (h : ImportsAbroad s N importer content) :
    ImportsAbroad ⟨t, []⟩ N importer content := by
  intro source hsource written names hmem
  have ha := h source hsource written names hmem
  unfold IsAbroad at ha ⊢
  split at ha
  · next habsolute => exact (if_pos habsolute).symm ▸ ha.nowhere
  · next hrelative => exact (if_neg hrelative).symm ▸ ha

/-- No import of a module is relative to it. -/
def ImportsAbsolute (content : FileContent) : Prop :=
  ∀ source, content = .definitions source → ∀ written names,
    ModuleItem.imports written names ∈ source.definitions → IsAbsolute written

/-- There is fuel for all names that a module imports from. -/
def Suffices (fuel : String → Nat) (content : FileContent) : Prop :=
  ∀ source, content = .definitions source → ∀ written names,
    ModuleItem.imports written names ∈ source.definitions → written.length < fuel written

theorem suffices_fuel (s : SearchPath) (content : FileContent) : Suffices s.fuel content := by
  intro source _ written names _
  unfold fuel
  omega

/-- A module that imports from abroad runs in one world as it does in another. -/
theorem carries_execute {T : Track} {s s' : SearchPath} {N N' : String → Prop}
    {fuel fuel' : String → Nat} {content : FileContent} {w w' : World}
    (hfolders : T.folders = none ∨ ImportsAbsolute content)
    (hentries : ∀ n i, T.entries.lookup n = some i → N n)
    (hentries' : ∀ n i, T.entries'.lookup n = some i → N' n)
    (ha : ImportsAbroad s N T.module content) (ha' : ImportsAbroad s' N' T.module content)
    (hfuel : Suffices fuel content) (hfuel' : Suffices fuel' content) :
    T.Carries id (fun _ => True) w w' (execute (s.importWithin fuel T.module) T.module content)
      (execute (s'.importWithin fuel' T.module) T.module content) := by
  cases content with
  | bytes bs => exact Track.carries_pure trivial rfl
  | definitions source =>
    have hs : T.Fits ⟨T.module, source.postponed, s.importWithin fuel T.module⟩
        ⟨T.module, source.postponed, s'.importWithin fuel' T.module⟩ := ⟨rfl, rfl, rfl⟩
    refine Track.carries_runDefinitions hs fun written names himport w w' => ?_
    dsimp only
    obtain ⟨r, hcommon, hrun⟩ := run_importWithin_abroad T.module written names
    have hplain : ∀ {entries : List (String × Nat)} {w : World}, T.Finds entries w →
        (w.loaded? T.module).bind LoadedModule.folders = none ∨ IsAbsolute written := by
      intro entries w hw
      obtain ⟨m, hm, hsame⟩ := Option.map_eq_some_iff.mp hw.2
      rw [hm, Option.bind_some, hsame]
      exact hfolders.imp_right fun habsolute => habsolute source rfl written names himport
    have hsame : r.map (List.map (Value.rename T.serials)) = r := by
      cases r with
      | error e => rfl
      | ok vs =>
        have hvs := gives_ok.mp hcommon
        exact congrArg Except.ok ((List.map_congr_left fun v hv => (hvs v hv).rename _).trans
          (List.map_id' _))
    refine Track.carries_still (r := r) (fun hw => ?_) (fun hw => ?_)
      (hcommon.mono fun vs hvs v hv => (hvs v hv).homely _)
    · exact hrun s w N fuel (ha source rfl written names himport)
        (fun n i hi => hentries n i (hw.left.1 ▸ hi)) (hplain hw.left)
        (hfuel source rfl written names himport)
    · rw [hsame]
      exact hrun s' w' N' fuel' (ha' source rfl written names himport)
        (fun n i hi => hentries' n i (hw.right.1 ▸ hi)) (hplain hw.right)
        (hfuel' source rfl written names himport)

end SearchPath

end TypeProjection
