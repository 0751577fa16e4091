import TypeProjection.Proofs.SteadySteps
import TypeProjection.Session.Import

/-!
# Imports that find no files

Where a search finds nothing, an import runs no module: what it names is there already, or it fails.
So it makes no classes, and what it gives depends on the outline of the world alone.
-/

namespace TypeProjection

open Annotation Definition

namespace Definition

variable {α β : Type} {w w' : World} {f : α → Run β}

theorem Parallel.tryCatch {m m' : Run α} {g g' : Fault → Run α} (hm : Parallel w w' m m')
    (hg : ∀ e w₁ w₁', w₁.outline = w₁'.outline → Parallel w₁ w₁' (g e) (g' e)) :
    Parallel w w' (tryCatch m g) (tryCatch m' g') := by
  obtain ⟨hresult, houtline, hleft, hright⟩ := hm
  have hrun := run_tryCatch m g w
  have hrun' := run_tryCatch m' g' w'
  rcases hm : m.run.run w with ⟨r, w₁⟩
  rcases hm' : m'.run.run w' with ⟨r', w₁'⟩
  rw [hm] at hresult houtline hleft hrun
  rw [hm'] at hresult houtline hright hrun'
  cases (hresult : r' = r)
  cases r with
  | ok a =>
    constructor
    · rw [hrun, hrun']
    · rw [hrun, hrun']
      exact houtline
    · rw [hrun]
      exact hleft
    · rw [hrun']
      exact hright
  | error e =>
    obtain ⟨hresult, houtline, hleft₁, hright₁⟩ := hg e w₁ w₁' houtline
    constructor
    · rw [hrun, hrun']
      exact hresult
    · rw [hrun, hrun']
      exact houtline
    · rw [hrun]
      exact hleft.trans hleft₁
    · rw [hrun']
      exact hright.trans hright₁

theorem Steady.tryCatch {m : Run α} {g : Fault → Run α} (hm : Steady m) (hg : ∀ e, Steady (g e)) :
    Steady (tryCatch m g) :=
  fun w w' h => (hm w w' h).tryCatch fun e _ _ h => hg e _ _ h

theorem steady_forM {f : α → Run Unit} (hf : ∀ a, Steady (f a)) (xs : List α) :
    Steady (xs.forM f) := by
  induction xs with
  | nil => exact steady_pure
  | cons x xs ih => exact (hf x).bind fun _ => ih

/-- A step that only the outline of the world chooses. -/
theorem steady_look {f : World → Run β} (hf : ∀ w, f w.outline = f w) (hs : ∀ w, Steady (f w)) :
    Steady (get >>= f) := by
  intro w w' h
  refine parallel_look ?_
  rw [World.eq_of_outline hf h]
  exact hs w' w w' h

end Definition

namespace SearchPath

variable {s : SearchPath} {importer module name written : String}

/-- No file and no folder is found under any name. -/
def FindsNothing (s : SearchPath) : Prop :=
  ∀ name folders, findAmong s.tree name folders = none

/-- Nothing is found in an empty tree. -/
theorem findsNothing_empty (folders : List Place) :
    FindsNothing ⟨.empty [], folders⟩ := by
  have hnode : ∀ (folder : Place) (n : String), (FileTree.empty []).node? (folder ++ [n]) = none := by
    intro folder n
    cases folder <;> rfl
  intro name folders
  induction folders with
  | nil => rfl
  | cons folder rest ih =>
    have hfind : findIn (.empty []) name folder = none := by
      have hfile : ∀ (folder : Place) (n : String),
          (FileTree.empty []).isFileAt (folder ++ [n]) = false := by
        intro folder n
        rw [FileTree.isFileAt, hnode]
      have hfolder : (FileTree.empty []).isFolderAt (folder ++ [name]) = false := by
        rw [FileTree.isFolderAt, hnode]
      simp only [findIn, hfile, hfolder, Bool.and_false, Bool.false_eq_true, if_false]
    rw [findAmong, hfind]
    exact ih

theorem steady_importNamed (hs : s.FindsNothing) (fuel : Nat) (module : String) :
    Steady (s.importNamed fuel module) := by
  induction fuel generalizing module with
  | zero => exact steady_failing
  | succ fuel ih =>
    unfold importNamed
    split
    · exact steady_failing
    refine steady_look (fun _ => rfl) fun w => ?_
    split
    · exact steady_pure
    obtain ⟨package, name⟩ := cutLast module
    simp -zeta only
    extract_lets next
    have hnext : ∀ u, Steady (next u) := by
      intro u
      refine steady_look (fun _ => rfl) fun w => ?_
      split
      · exact steady_pure
      · refine steady_look (fun _ => rfl) fun w => steady_lifted.bind fun folders => ?_
        rw [hs name folders]
        exact steady_failing
    cases package with
    | some p => exact (ih p).bind hnext
    | none => exact hnext ()

theorem steady_importIfMissing {importNamed : String → Run Unit}
    (hi : ∀ module, Steady (importNamed module)) :
    Steady (importIfMissing importNamed module name) := by
  refine steady_look (fun _ => rfl) fun w => ?_
  dsimp only
  split
  · refine (hi _).tryCatch fun f => ?_
    split
    · exact steady_pure
    · exact steady_failing
  · exact steady_pure

theorem steady_importedName : Steady (importedName module name) := by
  refine steady_look (fun _ => rfl) fun w => ?_
  dsimp only
  split
  · exact steady_pure
  · split
    · exact steady_pure
    · exact steady_failing

/-- What is imported where nothing is found depends on the outline of the world alone. -/
theorem steady_importFrom (hs : s.FindsNothing) (names : List String) :
    Steady (s.importFrom importer written names) := by
  refine steady_look (fun _ => rfl) fun w => steady_lifted.bind fun source => ?_
  refine (steady_importNamed hs _ source).bind fun _ => ?_
  have hmissing : ∀ name,
      Steady (importIfMissing (s.importNamed (s.fuel written)) source name) :=
    fun _ => steady_importIfMissing (steady_importNamed hs _)
  refine (steady_forM hmissing names).bind fun _ => ?_
  exact steady_mapM (fun _ => steady_importedName) names

end SearchPath

end TypeProjection
