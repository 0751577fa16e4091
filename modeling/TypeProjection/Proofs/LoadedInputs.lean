import TypeProjection.Proofs.OwnModules
import TypeProjection.Proofs.Termination
import TypeProjection.Proofs.WatchedOutput

/-!
# What inputs load

Inputs ask for source files and for modules, one after another. Loading them is loading what they
ask for in that order, with every file at its first occurrence only, up to the first input that is
refused: it cannot be looked up, or it means files and has none. Whether an input has files is asked
before files that were loaded for another one are left out, so an input is refused by itself or not
at all.
-/

namespace TypeProjection

open Annotation
open Definition (run_bind run_bind_ok)

/-- What an input asks for: a source file, or a module with names in it. -/
inductive LoadItem where
  | file (p : Place)
  | module (name : String) (requested : List String)
  deriving DecidableEq, Repr

namespace LoadItem

/-- The place of a source file. -/
def place? : LoadItem → Option Place
  | .file p => some p
  | .module _ _ => none

/-- The source files among what is asked for. -/
def places (items : List LoadItem) : List Place := items.filterMap place?

/-- What is asked for, with those files that have not been loaded yet, each once. -/
def fresh (done : List Place) : List LoadItem → List LoadItem
  | [] => []
  | .file p :: rest => if done.contains p then fresh done rest else .file p :: fresh (done ++ [p]) rest
  | .module name requested :: rest => .module name requested :: fresh done rest

variable {done ps : List Place} {items items' : List LoadItem}

theorem places_append : places (items ++ items') = places items ++ places items' :=
  List.filterMap_append

theorem places_files : places (ps.map .file) = ps := by
  rw [places, List.filterMap_map]
  exact List.filterMap_some

/-- Leaving out files that were loaded before concerns files alone. -/
theorem places_fresh : places (fresh done items) = newPlaces done (places items) := by
  induction items generalizing done with
  | nil => rfl
  | cons item rest ih =>
    cases item with
    | file p =>
      change places (fresh done (.file p :: rest)) = newPlaces done (p :: places rest)
      rw [fresh, newPlaces]
      split
      · exact ih
      · exact congrArg (p :: ·) ih
    | module name requested => exact ih

theorem fresh_append : fresh done (items ++ items') =
    fresh done items ++ fresh (done ++ newPlaces done (places items)) items' := by
  induction items generalizing done with
  | nil => exact congrArg (fresh · items') (List.append_nil done).symm
  | cons item rest ih =>
    cases item with
    | file p =>
      change _ = _ ++ fresh (done ++ newPlaces done (p :: places rest)) items'
      rw [List.cons_append, fresh, fresh, newPlaces]
      split
      · exact ih
      · rw [ih, List.cons_append, List.append_assoc, List.singleton_append]
    | module name requested => exact congrArg (LoadItem.module name requested :: ·) ih

theorem fresh_files : fresh done (ps.map .file) = (newPlaces done ps).map .file := by
  induction ps generalizing done with
  | nil => rfl
  | cons p ps ih =>
    rw [List.map_cons, fresh, newPlaces]
    split
    · exact ih
    · rw [ih, List.map_cons]

end LoadItem

/-! New places are the first occurrences of all places. -/

theorem newPlaces_eq_distinct (done ps : List Place) :
    newPlaces done ps = (distinct ps).filter fun p => !done.contains p := by
  induction ps generalizing done with
  | nil => rfl
  | cons p ps ih =>
    rw [newPlaces, distinct, List.filter_cons]
    split
    · next hp =>
      rw [ih, hp, Bool.not_true, if_neg Bool.false_ne_true, List.filter_filter]
      refine List.filter_congr fun q _ => ?_
      cases hq : p == q with
      | false => simp
      | true => rw [← beq_iff_eq.mp hq, hp]; rfl
    · next hp =>
      rw [ih, Bool.eq_false_iff.mpr hp, Bool.not_false, if_pos rfl, List.filter_filter]
      refine congrArg (p :: ·) (List.filter_congr fun q _ => ?_)
      rw [List.contains_append, Bool.not_or]
      congr 2
      rw [List.contains_cons, List.contains_nil, Bool.or_false, BEq.comm]

theorem newPlaces_nil (ps : List Place) : newPlaces [] ps = distinct ps := by
  rw [newPlaces_eq_distinct]
  exact List.filter_eq_self.mpr fun _ _ => rfl

theorem newPlaces_distinct (done ps : List Place) :
    newPlaces done (distinct ps) = newPlaces done ps := by
  rw [newPlaces_eq_distinct, newPlaces_eq_distinct, distinct_of_nodup (nodup_distinct ps)]

namespace FileTree

variable {t : FileTree} {inputs inputs' : List String} {input : String}

/-- The source files that an input means, without those that mark folders as packages. -/
def filesOf (t : FileTree) (input : String) : List Place :=
  ((t.sourcesOf input).map t.resolve).filter fun p => p.getLast? != some packageFile

theorem collect_one : t.collect [input] = distinct (t.filesOf input) := by
  rw [collect, List.flatMap_cons, List.flatMap_nil, List.append_nil, filesOf]

theorem isEmpty_collect : (t.collect [input]).isEmpty = (t.filesOf input).isEmpty := by
  rw [collect_one]
  cases t.filesOf input <;> rfl

/-- What one input asks for. -/
def itemsOf (t : FileTree) (input : String) : List LoadItem :=
  if t.looksLikePath input then (t.filesOf input).map .file
  else [.module (Loading.cutInput input).1 (Loading.cutInput input).2]

/-- Why an input is refused, if it is: it cannot be looked up, or it means files and has none. -/
def refusal? (t : FileTree) (input : String) : Option InputFault :=
  if t.isOverlong input then some (.file (.overlong (Path.ofText input).text))
  else if t.looksLikePath input && (t.filesOf input).isEmpty then some (.noFiles input)
  else none

/-- Why the first input that is refused is. -/
def firstRefusal? (t : FileTree) (inputs : List String) : Option InputFault :=
  inputs.findSome? t.refusal?

/-- What is loaded for inputs, up to the first one that is refused. -/
def items (t : FileTree) (inputs : List String) : List LoadItem :=
  LoadItem.fresh [] ((inputs.takeWhile fun input => (t.refusal? input).isNone).flatMap t.itemsOf)

/-- If no input is refused, all that inputs ask for is loaded. -/
theorem items_of_none (h : t.firstRefusal? inputs = none) :
    t.items inputs = LoadItem.fresh [] (inputs.flatMap t.itemsOf) := by
  have hall : ∀ input ∈ inputs, (t.refusal? input).isNone = true := by
    intro input hinput
    rw [List.findSome?_eq_none_iff.mp h input hinput]
    rfl
  have hself : (inputs ++ []).takeWhile _ = inputs ++ [].takeWhile _ :=
    List.takeWhile_append_of_pos hall
  rw [List.append_nil, List.takeWhile_nil, List.append_nil] at hself
  rw [items, hself]

theorem places_itemsOf :
    LoadItem.places (t.itemsOf input) = if t.looksLikePath input then t.filesOf input else [] := by
  unfold itemsOf
  split
  · exact LoadItem.places_files
  · rfl

end FileTree

namespace Loading

variable {α β : Type} {t : FileTree} {s s' : Session} {reload : Bool} {done : List Place}
  {inputs : List String} {items items' : List LoadItem} {modules : List InputModule}

/-- Loads what is asked for. -/
def load (reload : Bool) : LoadItem → Loading InputModule
  | .file p => do return ⟨← loadFile ⟨"/", p⟩, []⟩
  | .module name requested => do return ⟨← importInput reload name, requested⟩

/-- Loads one thing after another, and fails behind the last if an input is refused. -/
def loadItems (reload : Bool) (items : List LoadItem) (refusal : Option InputFault) :
    Loading (List InputModule) := do
  let modules ← items.mapM (load reload)
  match refusal with
  | none => return modules
  | some f => failed f

theorem loadItems_append (refusal : Option InputFault) :
    loadItems reload (items ++ items') refusal = do
      let modules ← items.mapM (load reload)
      let more ← loadItems reload items' refusal
      return modules ++ more := by
  unfold loadItems
  rw [List.mapM_append]
  simp only [bind_assoc, pure_bind]
  congr 1
  funext modules
  congr 1
  funext more
  cases refusal <;> rfl

/-- Steps that go on alike wherever the first one leads. -/
theorem run_bind_congr {m : Loading α} {f g : α → Loading β}
    (h : ∀ a s', m.run.run s = (.ok a, s') → (f a).run.run s' = (g a).run.run s') :
    (m >>= f).run.run s = (m >>= g).run.run s := by
  rw [run_bind, run_bind]
  rcases hm : m.run.run s with ⟨e | a, s'⟩
  · rfl
  · exact h a s' hm

theorem loadFiles_eq (reload : Bool) (done ps : List Place) :
    loadFiles done ps = do
      let modules ← ((newPlaces done ps).map LoadItem.file).mapM (load reload)
      return (done ++ newPlaces done ps, modules) := by
  induction ps generalizing done with
  | nil =>
    rw [loadFiles, newPlaces, List.map_nil, List.mapM_nil, List.append_nil]
    rfl
  | cons p ps ih =>
    rw [loadFiles, newPlaces]
    split
    · exact ih done
    · rw [List.map_cons, List.mapM_cons, ih (done ++ [p]), load]
      simp only [bind_assoc, pure_bind, List.append_assoc, List.singleton_append]

theorem onlyReads_load (reload : Bool) (item : LoadItem) : OnlyReads (load reload item) := by
  cases item with
  | file p => exact onlyReads_bind onlyReads_loadFile fun _ => onlyReads_pure
  | module name requested => exact onlyReads_bind onlyReads_importInput fun _ => onlyReads_pure

theorem onlyReads_loads (reload : Bool) (items : List LoadItem) :
    OnlyReads (items.mapM (load reload)) := by
  induction items with
  | nil => exact onlyReads_pure
  | cons item rest ih =>
    rw [List.mapM_cons]
    exact onlyReads_bind (onlyReads_load reload item) fun _ => onlyReads_bind ih fun _ => onlyReads_pure

/-- Loading inputs is loading what they ask for. -/
theorem run_loadFrom (hs : s.tree = t) :
    (loadFrom reload done inputs).run.run s =
      (loadItems reload (LoadItem.fresh done ((inputs.takeWhile fun input =>
        (t.refusal? input).isNone).flatMap t.itemsOf)) (t.firstRefusal? inputs)).run.run s := by
  induction inputs generalizing done s with
  | nil =>
    change _ = (loadItems reload [] none).run.run s
    rw [loadFrom, loadItems, List.mapM_nil, pure_bind]
  | cons input rest ih =>
    have hget : (get : Loading Session).run.run s = (.ok s, s) := rfl
    rw [loadFrom, run_bind, hget]
    dsimp only
    rw [hs]
    cases hrefusal : t.refusal? input with
    | some f =>
      have hfirst : t.firstRefusal? (input :: rest) = some f := by
        rw [FileTree.firstRefusal?, List.findSome?_cons, hrefusal]
      rw [List.takeWhile_cons_of_neg (by rw [hrefusal]; exact Bool.false_ne_true), hfirst]
      unfold FileTree.refusal? at hrefusal
      split at hrefusal
      · next hlong =>
        cases hrefusal
        rw [if_pos hlong]
        rfl
      · next hlong =>
        split at hrefusal
        · next hnone =>
          cases hrefusal
          rw [Bool.and_eq_true, ← FileTree.isEmpty_collect] at hnone
          rw [if_neg hlong, if_pos hnone.1, if_pos hnone.2]
          rfl
        · cases hrefusal
    | none =>
      have hfirst : t.firstRefusal? (input :: rest) = t.firstRefusal? rest := by
        rw [FileTree.firstRefusal?, List.findSome?_cons, hrefusal]
        rfl
      rw [List.takeWhile_cons_of_pos (by rw [hrefusal]; rfl), List.flatMap_cons, hfirst,
        LoadItem.fresh_append, loadItems_append, FileTree.itemsOf]
      have hlong : ¬ t.isOverlong input = true := by
        intro hlong
        rw [FileTree.refusal?, if_pos hlong] at hrefusal
        cases hrefusal
      rw [FileTree.refusal?, if_neg hlong, ← FileTree.isEmpty_collect] at hrefusal
      rw [if_neg hlong]
      split
      · next hpath =>
        have hfiles : ¬ (t.collect [input]).isEmpty = true := by
          intro hfiles
          rw [hpath, hfiles] at hrefusal
          cases hrefusal
        have hnew : newPlaces done (t.collect [input]) = newPlaces done (t.filesOf input) := by
          rw [FileTree.collect_one, newPlaces_distinct]
        rw [if_neg hfiles, loadFiles_eq reload, bind_assoc,
          LoadItem.fresh_files, LoadItem.places_files, hnew]
        refine run_bind_congr fun modules s₁ hrun => ?_
        have htree : s₁.tree = t := by
          have h := onlyReads_loads reload ((newPlaces done (t.filesOf input)).map .file) s
          rw [hrun] at h
          exact h.trans hs
        rw [pure_bind, run_bind, run_bind, ih htree]
      · rw [LoadItem.fresh, LoadItem.fresh, List.mapM_cons, List.mapM_nil]
        simp only [pure_bind, bind_assoc]
        rw [load, bind_assoc]
        refine run_bind_congr fun h s₁ hrun => ?_
        have htree : s₁.tree = t := by
          have h : ((importInput reload (cutInput input).1).run.run s).2.tree = s.tree :=
            onlyReads_importInput s
          rw [hrun] at h
          exact h.trans hs
        have hdone : done ++ newPlaces done
            (LoadItem.places [.module (cutInput input).1 (cutInput input).2]) = done :=
          List.append_nil done
        rw [pure_bind, hdone, run_bind, run_bind, ih htree]
        rfl

end Loading

end TypeProjection
