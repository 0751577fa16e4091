import TypeProjection.Proofs.KeptFiles

/-!
# Loading all files once more

Inputs that mean files load them one after another, up to the first that fails. So loading them in a
session fails as it does in a new one, with the first fault that a file has by itself, or it gives
for each file what running it alone makes. The files that were loaded before, latest last, tell which
of them are run: those that were not loaded, or failed, or were loaded in another version.
-/

namespace TypeProjection

open Annotation
open Definition (Run run_bind)

/-! Fewer names and fewer trees. -/

section Fewer

variable {N N' : String → Prop} {s : SearchPath} {importer written : String} {content : FileContent}

theorem Abroad.mono (h : Abroad s N written) (hN : ∀ n, N' n → N n) : Abroad s N' written :=
  ⟨fun n hn => h.apart n (hN n hn), h.absent⟩

theorem SearchPath.ImportsAbroad.mono (h : SearchPath.ImportsAbroad s N importer content)
    (hN : ∀ n, N' n → N n) : SearchPath.ImportsAbroad s N' importer content := by
  intro source hsource written names hmem
  have ha := h source hsource written names hmem
  unfold SearchPath.IsAbroad at ha ⊢
  split at ha
  · next habsolute => exact (if_pos habsolute).symm ▸ ha.mono hN
  · next hrelative => exact (if_neg hrelative).symm ▸ ha

end Fewer

namespace Loading

variable {T T' : FileTree → Prop} {inputs : List String} {reload : Bool} {s s' : Session}
  {es es' : List Stretch} {t : FileTree} {p : Place} {ps : List Place} {module : String}

/-- Fewer trees change as files should, too. -/
theorem FileChanges.mono (h : FileChanges T inputs) (hT : ∀ t, T' t → T t) :
    FileChanges T' inputs where
  proper t ht := h.proper t (hT t ht)
  paths t ht := h.paths t (hT t ht)
  apart ht ht' := h.apart (hT _ ht) (hT _ ht')
  versions ht ht' := h.versions (hT _ ht) (hT _ ht')
  abroad ht hsource hfolders := by
    refine (h.abroad (hT _ ht) hsource fun f hf => ?_).mono fun n hn => ?_
    · obtain ⟨t, ht, hf⟩ := hfolders f hf
      exact ⟨t, hT t ht, hf⟩
    · obtain ⟨t, p, ht, hp⟩ := hn
      exact ⟨t, p, hT t ht, hp⟩

theorem FileHistory.mono (h : FileHistory T inputs) (hT : ∀ t, T' t → T t) :
    FileHistory T' inputs where
  toFileChanges := h.toFileChanges.mono hT
  unmarked ht := h.unmarked (hT _ ht)

/-- The files that inputs list. -/
def listed (t : FileTree) (inputs : List String) : List Place := LoadItem.places (t.items inputs)

/-- Why a file that inputs list cannot be loaded, if it cannot. -/
def fault? (t : FileTree) (p : Place) : Option InputFault :=
  (moduleNameOf? ⟨"/", p⟩).bind (faultAt t p)

theorem named_of_listed (ht : t.Proper) (hp : p ∈ listed t inputs) :
    ∃ module, Lists t inputs p module := by
  obtain ⟨input, hcollect⟩ := FileTree.collect_of_listed hp
  obtain ⟨module, hmodule⟩ :=
    Option.isSome_iff_exists.mp (FileTree.place?_of_mem_collect ht hcollect).2
  exact ⟨module, hp, hmodule⟩

theorem nodup_listed (t : FileTree) (inputs : List String) : (listed t inputs).Nodup := by
  rw [listed, FileTree.items, LoadItem.places_fresh, newPlaces_nil]
  exact nodup_distinct _

/-- Inputs that mean files ask for files only. -/
theorem items_of_paths (h : ∀ input ∈ inputs, t.looksLikePath input = true) :
    t.items inputs = (listed t inputs).map .file := by
  have hfiles : ∀ items : List LoadItem, (∀ module requested, .module module requested ∉ items) →
      items = (LoadItem.places items).map .file := by
    intro items
    induction items with
    | nil => exact fun _ => rfl
    | cons item rest ih =>
      intro hitems
      have hrest := ih fun module requested hmem =>
        hitems module requested (List.mem_cons_of_mem _ hmem)
      cases item with
      | file p => exact congrArg (LoadItem.file p :: ·) hrest
      | module name requested => exact (hitems name requested (List.mem_cons_self ..)).elim
  exact hfiles _ fun module requested => not_module_mem_items h

/-! Loading the files one after another. -/

/-- The module that was given for a file is what the file makes by itself. -/
def Given (es : List Stretch) (s : Session) (p : Place) (m : InputModule) : Prop :=
  ∃ module i, moduleNameOf? ⟨"/", p⟩ = some module ∧ m = ⟨.loaded i, []⟩ ∧
    s.world.current.lookup module = some i ∧
    ∃ e ∈ es, e.module = fileModule p module ∧ e.content = SearchPath.contentAt s.tree p

/-- What loading listed files leaves. -/
structure FilesStep (T : FileTree → Prop) (inputs : List String) (s : Session) (es : List Stretch)
    (ps : List Place) (r : Except InputFault (List InputModule)) (s' : Session)
    (es' : List Stretch) : Prop where
  kept : Kept T inputs s' es'
  tree : s'.tree = s.tree
  others : ∀ n, (∀ p ∈ ps, moduleNameOf? ⟨"/", p⟩ ≠ some n) →
    s'.world.current.lookup n = s.world.current.lookup n
  stays : ∀ e ∈ es, (∀ p ∈ ps, moduleNameOf? ⟨"/", p⟩ ≠ some e.module.name) → e ∈ es'
  failed : ∀ f, ps.findSome? (fault? s.tree) = some f → r = .error f
  loaded : ps.findSome? (fault? s.tree) = none →
    ∃ modules, r = .ok modules ∧ List.Forall₂ (Given es' s') ps modules
  covered : (∀ t, T t → t = s.tree) → ps.findSome? (fault? s.tree) = none →
    s.world.Covered es → s'.world.Covered es'

theorem run_load_file (reload : Bool) (p : Place) (s : Session) :
    (load reload (.file p)).run.run s = (((loadFile ⟨"/", p⟩).run.run s).1.map (⟨·, []⟩),
      ((loadFile ⟨"/", p⟩).run.run s).2) := by
  rw [load, run_bind]
  rcases (loadFile ⟨"/", p⟩).run.run s with ⟨f | h, s'⟩ <;> rfl

/-- Modules that were given for files stay those of the files when others are loaded. -/
theorem Given.stay {m : InputModule} (h : Given es s p m) (htree : s'.tree = s.tree)
    (hname : ∀ q ∈ ps, moduleNameOf? ⟨"/", q⟩ ≠ moduleNameOf? ⟨"/", p⟩)
    (hothers : ∀ n, (∀ q ∈ ps, moduleNameOf? ⟨"/", q⟩ ≠ some n) →
      s'.world.current.lookup n = s.world.current.lookup n)
    (hstays : ∀ e ∈ es, (∀ q ∈ ps, moduleNameOf? ⟨"/", q⟩ ≠ some e.module.name) → e ∈ es') :
    Given es' s' p m := by
  obtain ⟨module, i, hmodule, rfl, hi, e, he, hfile, hcontent⟩ := h
  rw [hmodule] at hname
  refine ⟨module, i, hmodule, rfl, (hothers module hname).trans hi, e, ?_, hfile, ?_⟩
  · refine hstays e he ?_
    rw [hfile]
    exact hname
  · rw [htree, hcontent]

/-- Loading listed files once more. -/
theorem Kept.steps (hist : FileHistory T inputs) (reload : Bool) (hk : Kept T inputs s es)
    (hT : T s.tree) (ps : List Place) (hps : ∀ p ∈ ps, p ∈ listed s.tree inputs)
    (hnodup : ps.Nodup) : ∃ r s' es', ((ps.map LoadItem.file).mapM (load reload)).run.run s = (r, s') ∧
      FilesStep T inputs s es ps r s' es' := by
  induction ps generalizing s es with
  | nil =>
    exact ⟨.ok [], s, es, rfl, hk, rfl, fun _ _ => rfl, fun _ he _ => he, nofun,
      fun _ => ⟨[], rfl, .nil⟩, fun _ _ hcovered => hcovered⟩
  | cons p ps ih =>
    obtain ⟨hp, hps⟩ := List.forall_mem_cons.mp hps
    obtain ⟨hnew, hnodup⟩ := List.nodup_cons.mp hnodup
    obtain ⟨module, hlists⟩ := named_of_listed (hist.proper _ hT) hp
    have hname : ∀ q ∈ ps, moduleNameOf? ⟨"/", q⟩ ≠ some module := by
      intro q hq hmodule
      obtain rfl := hist.apart hT hT hlists ⟨hps q hq, hmodule⟩
      exact hnew hq
    have hothers : ∀ {n}, (∀ q ∈ p :: ps, moduleNameOf? ⟨"/", q⟩ ≠ some n) → n ≠ module := by
      rintro n hn rfl
      exact hn p (List.mem_cons_self ..) hlists.named
    obtain ⟨r, s₁, es₁, hrun, hstep⟩ := hk.step hist hT hlists
    have hfirst : (load reload (.file p)).run.run s = (r.map (⟨·, []⟩), s₁) := by
      rw [run_load_file, hrun]
    have hfault : fault? s.tree p = faultAt s.tree p module := by
      rw [fault?, hlists.named]
      rfl
    rw [List.map_cons, List.mapM_cons, run_bind, hfirst]
    cases hf : faultAt s.tree p module with
    | some f =>
      obtain ⟨rfl, -⟩ := hstep.failed f hf
      have hfound : (p :: ps).findSome? (fault? s.tree) = some f := by
        rw [List.findSome?_cons, hfault, hf]
      refine ⟨.error f, s₁, es₁, rfl, hstep.kept, hstep.tree, fun n hn =>
        (hstep.others n (hothers hn)).1, fun e he hn => hstep.stays e he (hothers hn), ?_, ?_, ?_⟩
      · intro f' hf'
        rw [hfound] at hf'
        cases hf'
        rfl
      · intro hnone
        rw [hfound] at hnone
        cases hnone
      · intro _ hnone
        rw [hfound] at hnone
        cases hnone
    | none =>
      obtain ⟨⟨i, rfl, hi⟩, -, e, he, hfile, hcontent⟩ := hstep.loaded hf
      have hfound : (p :: ps).findSome? (fault? s.tree) = ps.findSome? (fault? s.tree) := by
        rw [List.findSome?_cons, hfault, hf]
      have htree := hstep.tree
      obtain ⟨r', s', es', hrest, hsteps⟩ := ih hstep.kept (htree ▸ hT)
        (fun q hq => htree ▸ hps q hq) hnodup
      have hgiven : Given es' s' p ⟨.loaded i, []⟩ := by
        have hnow : Given es₁ s₁ p ⟨.loaded i, []⟩ :=
          ⟨module, i, hlists.named, rfl, hi, e, he, hfile, htree.symm ▸ hcontent⟩
        refine hnow.stay hsteps.tree (fun q hq => ?_) hsteps.others hsteps.stays
        rw [hlists.named]
        exact hname q hq
      refine ⟨r'.map (⟨.loaded i, []⟩ :: ·), s', es', ?_, hsteps.kept, hsteps.tree.trans htree, ?_, ?_,
        ?_, ?_, ?_⟩
      · dsimp only [Except.map]
        rw [run_bind, hrest]
        cases r' <;> rfl
      · intro n hn
        exact (hsteps.others n fun q hq => hn q (List.mem_cons_of_mem _ hq)).trans
          (hstep.others n (hothers hn)).1
      · intro e he hn
        exact hsteps.stays e (hstep.stays e he (hothers hn)) fun q hq =>
          hn q (List.mem_cons_of_mem _ hq)
      · intro f hfault'
        rw [hfound, ← htree] at hfault'
        rw [hsteps.failed f hfault']
        rfl
      · intro hnone
        rw [hfound, ← htree] at hnone
        obtain ⟨modules, rfl, hmodules⟩ := hsteps.loaded hnone
        exact ⟨_, rfl, .cons hgiven hmodules⟩
      · intro hsingle hnone hcovered
        rw [hfound, ← htree] at hnone
        exact hsteps.covered (fun t ht => (hsingle t ht).trans htree.symm) hnone
          (hstep.covered hsingle hf hcovered)

/-! What has been loaded so far. -/

/-- A file that was loaded: the session before, what loading it gave, and the session after. -/
structure Visit where
  place : Place
  before : Session
  result : Except InputFault ModuleHandle
  after : Session

/-- Loads the file at a place. -/
def Visit.of (s : Session) (p : Place) : Visit :=
  let (r, s') := (loadFile ⟨"/", p⟩).run.run s
  ⟨p, s, r, s'⟩

/-- Loads the files at places one after another, up to the first that fails. -/
def visits (s : Session) : List Place → List Visit
  | [] => []
  | p :: ps =>
    let v := Visit.of s p
    v :: match v.result with
      | .ok _ => visits v.after ps
      | .error _ => []

/-- The session that visits leave. -/
def endOf (s : Session) (vs : List Visit) : Session := (vs.getLast?.map Visit.after).getD s

/-- What was given for a file. -/
def Visit.gave (v : Visit) : Except InputFault InputModule := v.result.map (⟨·, []⟩)

/-- The version in which a file was loaded, if that went well. -/
def Visit.version (v : Visit) : Option Nat :=
  match v.result with
  | .ok _ => versionAt v.before.tree v.place
  | .error _ => none

/-- The version in which a file was loaded the last time, if that went well. -/
def remembered (log : List Visit) (p : Place) : Option Nat :=
  ((log.filter fun v => v.place == p).getLast?).bind Visit.version

/-- After other visits, a file is not run again if it was loaded the last time in the version that it
has, and it is run otherwise. If it fails, there is no module of its name. -/
structure Frugal (log : List Visit) (v : Visit) : Prop where
  reused : (remembered log v.place).isSome = true →
    remembered log v.place = versionAt v.before.tree v.place →
      v.after.world = v.before.world ∧ ∃ h, v.result = .ok h
  run : remembered log v.place ≠ versionAt v.before.tree v.place →
    v.before.tree.isFileAt v.place = true →
      v.before.world.modules.size < v.after.world.modules.size
  failed : ∀ f module, v.result = .error f → moduleNameOf? ⟨"/", v.place⟩ = some module →
    v.after.world.current.lookup module = none

/-- The versions that a session keeps are those that are remembered. -/
def Recalls (T : FileTree → Prop) (inputs : List String) (log : List Visit) (s : Session) : Prop :=
  ∀ t p module, T t → Lists t inputs p module → s.world.keptVersion module = remembered log p

section Visits

variable {log : List Visit}

theorem endOf_cons (s : Session) (v : Visit) (vs : List Visit) :
    endOf s (v :: vs) = endOf v.after vs := by
  rw [endOf, List.getLast?_cons]
  unfold endOf
  cases vs.getLast? <;> rfl

/-- Loading files is visiting them. -/
theorem run_visits (reload : Bool) (ps : List Place) (s : Session) :
    ((ps.map LoadItem.file).mapM (load reload)).run.run s =
      ((visits s ps).mapM Visit.gave, endOf s (visits s ps)) := by
  induction ps generalizing s with
  | nil => rfl
  | cons p ps ih =>
    rw [List.map_cons, List.mapM_cons, run_bind, run_load_file, visits, List.mapM_cons, endOf_cons]
    unfold Visit.of
    rcases (loadFile ⟨"/", p⟩).run.run s with ⟨f | h, s₁⟩
    · rfl
    · dsimp only [Except.map, Visit.gave]
      rw [run_bind, ih]
      cases (visits s₁ ps).mapM Visit.gave <;> rfl

theorem remembered_append (log : List Visit) (v : Visit) (p : Place) :
    remembered (log ++ [v]) p = if v.place = p then v.version else remembered log p := by
  rw [remembered, List.filter_append, List.filter_cons, List.filter_nil]
  by_cases hp : v.place = p
  · rw [if_pos (beq_iff_eq.mpr hp), if_pos hp, List.getLast?_concat]
    rfl
  · rw [if_neg (mt beq_iff_eq.mp hp), if_neg hp, List.append_nil]
    rfl

/-- Visiting a listed file. -/
theorem Kept.visit (hist : FileHistory T inputs) (hk : Kept T inputs s es)
    (hlog : Recalls T inputs log s) (hT : T s.tree) (hp : p ∈ listed s.tree inputs) :
    Frugal log (Visit.of s p) ∧ (∃ es', Kept T inputs (Visit.of s p).after es') ∧
      Recalls T inputs (log ++ [Visit.of s p]) (Visit.of s p).after ∧
      (Visit.of s p).after.tree = s.tree := by
  obtain ⟨module, hlists⟩ := named_of_listed (hist.proper _ hT) hp
  obtain ⟨r, s', es', hrun, hstep⟩ := hk.step hist hT hlists
  have hvisit : Visit.of s p = ⟨p, s, r, s'⟩ := by
    unfold Visit.of
    rw [hrun]
  have hkept : IsKept s.world s.tree p module ↔
      (remembered log p).isSome = true ∧ remembered log p = versionAt s.tree p := by
    rw [IsKept, hlog s.tree p module hT hlists]
  have hversion : s'.world.keptVersion module = (Visit.mk p s r s').version := by
    cases hf : faultAt s.tree p module with
    | none =>
      obtain ⟨⟨i, rfl, -⟩, hkept', -⟩ := hstep.loaded hf
      exact hkept'.2
    | some f =>
      obtain ⟨rfl, hnone⟩ := hstep.failed f hf
      rw [World.keptVersion, World.loaded?, hnone]
      rfl
  rw [hvisit]
  refine ⟨⟨fun hsome hsame => ?_, fun hdifferent hfile => ?_, fun f module' hf hmodule => ?_⟩,
    ⟨es', hstep.kept⟩, fun t q module' ht hq => ?_, hstep.tree⟩
  · have hworld := hstep.reused (hkept.mpr ⟨hsome, hsame⟩)
    refine ⟨hworld, ?_⟩
    cases hf : faultAt s.tree p module with
    | none => exact ⟨_, ((hstep.loaded hf).1.choose_spec).1⟩
    | some f =>
      have hnone : s'.world.keptVersion module = none := by
        rw [World.keptVersion, World.loaded?, (hstep.failed f hf).2]
        rfl
      rw [show s'.world = s.world from hworld, hlog s.tree p module hT hlists] at hnone
      rw [show remembered log p = none from hnone] at hsome
      cases hsome
  · exact hstep.run (fun hkept' => hdifferent (hkept.mp hkept').2) hfile
  · obtain rfl : module' = module := Option.some.inj (hmodule.symm.trans hlists.named)
    cases hf' : faultAt s.tree p module' with
    | none =>
      obtain ⟨i, hr, -⟩ := (hstep.loaded hf').1
      cases hf.symm.trans hr
    | some f' => exact (hstep.failed f' hf').2
  · rw [remembered_append]
    split
    · next hqp =>
      obtain rfl : p = q := hqp
      obtain rfl : module' = module := Option.some.inj (hq.named.symm.trans hlists.named)
      exact hversion
    · next hqp =>
      have hne : module' ≠ module := by
        rintro rfl
        exact hqp (hist.apart hT ht hlists hq)
      rw [World.keptVersion, (hstep.others module' hne).2]
      exact hlog t q module' ht hq

/-- Visiting listed files one after another. -/
theorem Kept.visits (hist : FileHistory T inputs) (hk : Kept T inputs s es)
    (hlog : Recalls T inputs log s) (hT : T s.tree) (hps : ∀ p ∈ ps, p ∈ listed s.tree inputs) :
    (∀ front v rest, Loading.visits s ps = front ++ v :: rest → Frugal (log ++ front) v) ∧
      Recalls T inputs (log ++ Loading.visits s ps) (endOf s (Loading.visits s ps)) := by
  induction ps generalizing s es log with
  | nil =>
    refine ⟨fun front v rest h => ?_, ?_⟩
    · exact (List.append_ne_nil_of_right_ne_nil _ (List.cons_ne_nil _ _) h.symm).elim
    · rw [Loading.visits, List.append_nil]
      exact hlog
  | cons p ps ih =>
    obtain ⟨hp, hps⟩ := List.forall_mem_cons.mp hps
    obtain ⟨hfrugal, ⟨es', hk'⟩, hlog', htree⟩ := hk.visit hist hlog hT hp
    rw [Loading.visits]
    generalize Visit.of s p = v at hfrugal hk' hlog' htree
    have hrest : (∀ front u rest, (match v.result with
          | .ok _ => Loading.visits v.after ps
          | .error _ => []) = front ++ u :: rest → Frugal (log ++ [v] ++ front) u) ∧
        Recalls T inputs (log ++ [v] ++ match v.result with
          | .ok _ => Loading.visits v.after ps
          | .error _ => []) (endOf v.after (match v.result with
          | .ok _ => Loading.visits v.after ps
          | .error _ => [])) := by
      cases v.result with
      | ok h => exact ih hk' hlog' (htree ▸ hT) fun q hq => htree ▸ hps q hq
      | error f =>
        refine ⟨fun front u rest h => ?_, ?_⟩
        · exact (List.append_ne_nil_of_right_ne_nil _ (List.cons_ne_nil _ _) h.symm).elim
        · rw [List.append_nil]
          exact hlog'
    rw [endOf_cons]
    refine ⟨fun front u rest h => ?_, ?_⟩
    · cases front with
      | nil =>
        cases h
        rw [List.append_nil]
        exact hfrugal
      | cons v' front =>
        obtain ⟨rfl, htail⟩ := List.cons.inj h
        have hu := hrest.1 front u rest htail
        rwa [List.append_assoc, List.singleton_append] at hu
    · have hall := hrest.2
      rwa [List.append_assoc, List.singleton_append] at hall

end Visits

end Loading

end TypeProjection
