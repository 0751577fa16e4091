import TypeProjection.Proofs.FreshRounds
import TypeProjection.Proofs.ReloadedModules

/-!
# Rounds over modules

While the command watches modules that inputs ask for by name, each round runs them once more where
they are. If their versions only add to what older ones have bound, every round ends as a run in a
new process on the files of that time does. If a version leaves out what an older one has bound,
this is found all the same, and the round is not fresh.
-/

namespace TypeProjection

open Annotation
open Definition (Run run_bind)
open Loading (asked involved cutInput importFault)

namespace Layout

variable {inputs : List String} {l : Layout inputs} {t : FileTree} {n : String} {w w' : World}
  {es es' : List Stretch} {s : Session} {reload : Bool} {done : List String}
  {items : List (String × List String)}

/-! Loading one module. -/

/-- What loading a module ends in. It leaves the files and the folders alone. -/
inductive Step (l : Layout inputs) (t : FileTree) (n : String) (I J : World → Prop) (s : Session) :
    Except InputFault ModuleHandle × Session → Prop
  | failed (f : Annotation.Fault) (w' : World) : l.verdict t n = .error f → J w' →
      Step l t n I J s (.error (importFault n f), { s with world := w' })
  | loaded (i : Nat) (w' : World) : l.verdict t n = .ok () → I w' → Retains s.world w' →
      w'.current.lookup n = some i → Step l t n I J s (.ok (.loaded i), { s with world := w' })

include l in
/-- The name of a module does not begin with a point. -/
theorem head_of_involved (hn : n ∈ asked inputs) : n.toList.head? ≠ some '.' := by
  intro hhead
  obtain ⟨rest, hrest⟩ : ∃ rest, n.toList = '.' :: rest := by
    cases hlist : n.toList with
    | nil =>
      rw [hlist] at hhead
      cases hhead
    | cons c cs =>
      rw [hlist] at hhead
      obtain rfl : c = '.' := Option.some.inj hhead
      exact ⟨cs, rfl⟩
  have hempty : "" ∈ SearchPath.packagesAround n := SearchPath.mem_packagesAround.mpr ⟨rest, hrest⟩
  exact (l.own "" (mem_involved.mpr (.inr ⟨n, hn, hempty⟩))).1 rfl

/-- Loading a module imports it, and runs it once more if it is to be reloaded. -/
theorem run_importInput (htree : s.tree = t) (hfolders : s.folders = [l.home])
    (hn : n ∈ asked inputs) (reload : Bool) : (Loading.importInput reload n).run.run s =
      (do
        Loading.running (importFault n) ((⟨t, [l.home]⟩ : SearchPath).importNamed
          ((⟨t, [l.home]⟩ : SearchPath).fuel n) n)
        if reload then Loading.running (importFault n) ((⟨t, [l.home]⟩ : SearchPath).reload n)
        Loading.handleOf n : Loading ModuleHandle).run.run s := by
  have hget : (get : Loading Session).run.run s = (.ok s, s) := rfl
  have hpath : s.searchPath = ⟨t, [l.home]⟩ := by
    rw [Session.searchPath, htree, hfolders]
  unfold Loading.importInput
  rw [if_neg (by simpa using head_of_involved (l := l) hn), run_bind, hget]
  dsimp only
  rw [hpath]

/-- Modules are found as the files have them, and the world has nothing else. -/
def Opened (l : Layout inputs) (t : FileTree) (done : List String) (w : World) : Prop :=
  (∃ es, l.Imported t w es) ∧ ∀ n ∈ done, (w.current.lookup n).isSome = true

theorem lt_fuel (s : SearchPath) (n : String) :
    n.length + SearchPath.longestImport s.tree < s.fuel n := by
  have hpos : 0 < (s.tree.entries.length + 1) * (s.folders.length + 1) :=
    Nat.mul_pos (Nat.succ_pos _) (Nat.succ_pos _)
  have hlongest := Nat.le_mul_of_pos_left (64 + SearchPath.longestImport s.tree) hpos
  unfold SearchPath.fuel
  omega

theorem run_handleOf_found {i : Nat} (hi : w.current.lookup n = some i) (s : Session) :
    (Loading.handleOf n).run.run { s with world := w } =
      (.ok (.loaded i), { s with world := w }) := by
  rw [Loading.run_handleOf]
  dsimp only
  rw [hi]

/-- A module that is imported is found as its file has it, or it fails as it does alone. -/
theorem step_import (ht : l.Laid t) (htree : s.tree = t) (hfolders : s.folders = [l.home])
    (hn : n ∈ asked inputs) (h : l.Opened t done s.world) :
    l.Step t n (l.Opened t (done ++ [n])) (fun _ => True) s
      ((Loading.importInput false n).run.run s) := by
  obtain ⟨⟨es, himported⟩, hdone⟩ := h
  obtain ⟨w', hrun, hok⟩ := imports_importNamed ht himported (involved_of_asked hn)
    (lt_fuel ⟨t, [l.home]⟩ n)
  rw [run_importInput htree hfolders hn, run_bind, Loading.run_running, hrun]
  rcases hverdict : l.verdict t n with f | ⟨⟩
  · exact .failed f w' hverdict trivial
  · obtain ⟨es', himported', hretains, hknown⟩ := hok hverdict
    obtain ⟨i, hi⟩ := Option.isSome_iff_exists.mp hknown
    change l.Step t n _ _ s ((Loading.handleOf n).run.run { s with world := w' })
    rw [run_handleOf_found hi]
    refine .loaded i w' hverdict ⟨⟨es', himported'⟩, List.forall_mem_append.mpr
      ⟨fun m hm => ?_, List.forall_mem_singleton.mpr hknown⟩⟩ hretains hi
    obtain ⟨j, hj⟩ := Option.isSome_iff_exists.mp (hdone m hm)
    rw [hretains m j hj]
    rfl

/-- Modules are run once more, and what they have bound is what older versions bind, and the present
one if it runs well. -/
def Reopened (l : Layout inputs) (t : FileTree) (past : List FileTree) (done : List String)
    (w : World) : Prop :=
  l.Ready (fun n t' => t' ∈ past ∨ t' = t ∧ l.verdict t n = .ok ()) w ∧
    ∃ es, l.Refreshed t done w es

/-- A history of files: the modules are where they should be at any time, hide no name that every
module has, and every version may follow all older ones. -/
structure History (l : Layout inputs) (ts : List FileTree) : Prop where
  laid : ∀ t ∈ ts, l.Laid t
  visible : ∀ t ∈ ts, ∀ n ∈ asked inputs, ∀ name ∈ l.bound t n, builtinName? name = none
  replaces : ts.Pairwise fun t' t => ∀ n ∈ asked inputs, l.Replaces t' t n

theorem History.sublist {ts ts' : List FileTree} (h : l.History ts) (hts : ts'.Sublist ts) :
    l.History ts' where
  laid t ht := h.laid t (hts.subset ht)
  visible t ht := h.visible t (hts.subset ht)
  replaces := h.replaces.sublist hts

/-- A module that is run once more is found as its file has it, or it fails as it does alone. -/
theorem step_reload {past later : List FileTree} (hist : l.History (past ++ t :: later))
    (htree : s.tree = t) (hfolders : s.folders = [l.home]) (hn : n ∈ asked inputs)
    (h : l.Reopened t past done s.world) :
    l.Step t n (l.Reopened t past (done ++ [n])) (l.Ready fun _ t' => t' ∈ past ++ [t]) s
      ((Loading.importInput true n).run.run s) := by
  obtain ⟨hready, es, hrefreshed⟩ := h
  have hnow : t ∈ past ++ t :: later := List.mem_append_right _ (List.mem_cons_self ..)
  have hmem : ∀ t', t' ∈ past ∨ t' = t ∧ l.verdict t n = .ok () → t' ∈ past ++ t :: later := by
    rintro t' (ht' | ⟨rfl, -⟩)
    · exact List.mem_append_left _ ht'
    · exact hnow
  have ht := hist.laid t hnow
  have hn' := involved_of_asked hn
  have hT : ∀ t', t' ∈ past ∨ t' = t ∧ l.verdict t n = .ok () → l.Replaces t' t n := by
    rintro t' (ht' | ⟨rfl, hok⟩)
    · exact (List.pairwise_append.mp hist.replaces).2.2 t' ht' t (List.mem_cons_self ..) n hn
    · exact replaces_self hok (ht.nodup_bound hn')
  have hfound := hready.found n hn
  have hosts := hready.hosts hn fun t' ht' => hist.visible t' (hmem t' ht') n hn
  obtain ⟨w', hrun, hruns⟩ := hready.reload ht hn hosts hT
  have hafter := hready.ran hruns ht hn
  rw [run_importInput htree hfolders hn, run_bind, Loading.run_running,
    run_importNamed_found hn' hfound (Nat.lt_of_le_of_lt (Nat.zero_le _) (lt_fuel _ n))]
  change l.Step t n _ _ s ((Loading.running (importFault n)
    ((⟨t, [l.home]⟩ : SearchPath).reload n) >>= fun _ => Loading.handleOf n).run.run s)
  rw [run_bind, Loading.run_running, hrun]
  rcases hverdict : l.verdict t n with f | ⟨⟩
  · refine .failed f w' hverdict (hafter.mono fun m _ t' ht' => ?_)
    rcases ht' with (ht' | ⟨rfl, -⟩) | ⟨-, rfl⟩
    · exact List.mem_append_left _ ht'
    · exact List.mem_append_right _ (List.mem_singleton_self _)
    · exact List.mem_append_right _ (List.mem_singleton_self _)
  · obtain ⟨i, hi⟩ := Option.isSome_iff_exists.mp (hafter.found n hn)
    change l.Step t n _ _ s ((Loading.handleOf n).run.run { s with world := w' })
    rw [run_handleOf_found hi]
    have hshows := hready.shows hruns hn hT hverdict
    refine .loaded i w' hverdict ⟨hafter.mono fun m _ t' ht' => ?_, ?_⟩ (fun m j hj => ?_) hi
    · rcases ht' with ht' | ⟨rfl, rfl⟩
      · exact ht'
      · exact .inr ⟨rfl, hverdict⟩
    · exact hrefreshed.ran hruns hready.sited (ht.unmarked n hn') hverdict hshows
    · rw [hruns.spares.current]
      exact hj

/-! Loading all modules. -/

/-- Why modules cannot be loaded, if they cannot: the first one that fails alone fails. -/
def firstFault (l : Layout inputs) (t : FileTree) (items : List (String × List String)) :
    Option InputFault :=
  items.findSome? fun item =>
    match l.verdict t item.1 with
    | .ok _ => none
    | .error f => some (importFault item.1 f)

/-- The module that was given for an item is the one that is found by its name. -/
def Handed (w : World) (item : String × List String) (m : InputModule) : Prop :=
  ∃ i, w.current.lookup item.1 = some i ∧ m = ⟨.loaded i, item.2⟩

/-- What loading modules one after another ends in: a fault, if there is one, or all of them. -/
inductive Steps (why : Option InputFault) (items : List (String × List String))
    (I J : World → Prop) (s : Session) : Except InputFault (List InputModule) × Session → Prop
  | failed (f : InputFault) (w' : World) : why = some f → J w' →
      Steps why items I J s (.error f, { s with world := w' })
  | loaded (ms : List InputModule) (w' : World) : why = none → I w' →
      Retains s.world w' → List.Forall₂ (Handed w') items ms →
      Steps why items I J s (.ok ms, { s with world := w' })

namespace Steps

variable {I J : World → Prop} {why : Option InputFault}
  {ended : Except InputFault (List InputModule) × Session} (h : Steps why items I J s ended)

include h

theorem session : ended.2.tree = s.tree ∧ ended.2.folders = s.folders := by
  cases h <;> exact ⟨rfl, rfl⟩

theorem none_of_ok {ms : List InputModule} (hok : ended.1 = .ok ms) : why = none := by
  cases h with
  | failed => cases hok
  | loaded _ _ hnone => exact hnone

theorem world (hnone : why = none) : I ended.2.world := by
  cases h with
  | failed _ _ hfault => cases hfault.symm.trans hnone
  | loaded _ _ _ hI => exact hI

/-- What is so however the steps end. -/
theorem either {K : World → Prop} (hI : ∀ w, I w → K w) (hJ : ∀ w, J w → K w) :
    K ended.2.world := by
  cases h with
  | failed _ w' _ hw => exact hJ w' hw
  | loaded _ w' _ hw => exact hI w' hw

end Steps

/-- What an item asks for. -/
def itemOf (item : String × List String) : LoadItem := .module item.1 item.2

theorem steps {I : List String → World → Prop} {J : World → Prop}
    (items : List (String × List String)) (done : List String)
    (hstep : ∀ (done : List String) (s : Session) (n : String), s.tree = t →
      s.folders = [l.home] → n ∈ asked inputs → I done s.world →
        l.Step t n (I (done ++ [n])) J s ((Loading.importInput reload n).run.run s))
    (hitems : ∀ item ∈ items, item.1 ∈ asked inputs) (htree : s.tree = t)
    (hfolders : s.folders = [l.home]) (h : I done s.world) :
    Steps (l.firstFault t items) items (I (done ++ items.map (·.1))) J s
      (((items.map itemOf).mapM (Loading.load reload)).run.run s) := by
  induction items generalizing s done with
  | nil =>
    rw [List.map_nil, List.map_nil, List.append_nil]
    exact .loaded [] s.world rfl h (fun _ _ hi => hi) .nil
  | cons item rest ih =>
    obtain ⟨hitem, hrest⟩ := List.forall_mem_cons.mp hitems
    have hone := hstep done s item.1 htree hfolders hitem h
    have hload : (Loading.load reload (itemOf item)).run.run s =
        (((Loading.importInput reload item.1).run.run s).1.map (⟨·, item.2⟩),
          ((Loading.importInput reload item.1).run.run s).2) := by
      rw [itemOf, Loading.load, run_bind]
      rcases (Loading.importInput reload item.1).run.run s with ⟨f | m, s'⟩ <;> rfl
    rw [List.map_cons (f := itemOf), List.mapM_cons, run_bind, hload]
    revert hone
    generalize (Loading.importInput reload item.1).run.run s = ended
    intro hone
    cases hone with
    | failed f w' hverdict hJ =>
      refine .failed _ w' ?_ hJ
      rw [firstFault, List.findSome?_cons, hverdict]
    | loaded i w' hverdict hI hretains hi =>
      have hmore := ih (s := { s with world := w' }) (done ++ [item.1]) hrest htree hfolders hI
      rw [List.append_assoc, List.singleton_append] at hmore
      have hfault : l.firstFault t (item :: rest) = l.firstFault t rest := by
        rw [firstFault, List.findSome?_cons, hverdict]
        rfl
      change Steps _ (item :: rest) _ J s ((do
        let ms ← (rest.map itemOf).mapM (Loading.load reload)
        return ⟨.loaded i, item.2⟩ :: ms : Loading _).run.run { s with world := w' })
      rw [run_bind]
      revert hmore
      generalize ((rest.map itemOf).mapM (Loading.load reload)).run.run { s with world := w' } =
        ended
      intro hmore
      cases hmore with
      | failed f w'' hfailed hJ => exact .failed f w'' (hfault.trans hfailed) hJ
      | loaded ms w'' hnone hI' hretains' hms =>
        exact .loaded _ w'' (hfault.trans hnone) hI' (fun m j hj => hretains' m j (hretains m j hj))
          (.cons ⟨i, hretains' item.1 i hi, rfl⟩ hms)

/-- What the inputs ask for that come before the first one which is refused. -/
def taken (t : FileTree) (inputs : List String) : List (String × List String) :=
  (inputs.takeWhile fun input => (t.refusal? input).isNone).map cutInput

/-- Why inputs cannot be loaded, if they cannot: a module fails alone, or an input is refused. -/
def inputsFault (l : Layout inputs) (t : FileTree) : Option InputFault :=
  (l.firstFault t (taken t inputs)).or (t.firstRefusal? inputs)

/-- Inputs that are no paths ask for modules only. -/
theorem items_modules (ht : l.Laid t) : t.items inputs = (taken t inputs).map itemOf := by
  have hone : ∀ input ∈ inputs.takeWhile fun input => (t.refusal? input).isNone,
      t.itemsOf input = [itemOf (cutInput input)] := by
    intro input hinput
    rw [FileTree.itemsOf, ht.modules input (List.takeWhile_subset _ hinput)]
    rfl
  have hfresh : ∀ items : List (String × List String),
      LoadItem.fresh [] (items.map itemOf) = items.map itemOf := by
    intro items
    induction items with
    | nil => rfl
    | cons item rest ih => exact congrArg (itemOf item :: ·) ih
  rw [FileTree.items, List.flatMap_congr hone, ← List.map_eq_flatMap, taken, ← hfresh,
    List.map_map]
  rfl

theorem taken_of_none (h : t.firstRefusal? inputs = none) : taken t inputs = inputs.map cutInput := by
  rw [taken, List.takeWhile_eq_self_iff.mpr fun input hinput => ?_]
  rw [List.findSome?_eq_none_iff.mp h input hinput]
  rfl

theorem asked_of_item {item : String × List String} (h : item ∈ inputs.map cutInput) :
    item.1 ∈ asked inputs := by
  obtain ⟨input, hinput, rfl⟩ := List.mem_map.mp h
  exact List.mem_map_of_mem hinput

theorem asked_of_taken {item : String × List String} (h : item ∈ taken t inputs) :
    item.1 ∈ asked inputs :=
  asked_of_item (List.map_subset _ (List.takeWhile_subset _) h)

theorem asked_eq (inputs : List String) : asked inputs = (inputs.map cutInput).map (·.1) := by
  rw [List.map_map]
  rfl

/-- Loading the inputs, given what loading one module leaves. -/
theorem steps_loadInputs {I : List String → World → Prop} {J : World → Prop} (ht : l.Laid t)
    (hstep : ∀ (done : List String) (s : Session) (n : String), s.tree = t →
      s.folders = [l.home] → n ∈ asked inputs → I done s.world →
        l.Step t n (I (done ++ [n])) J s ((Loading.importInput reload n).run.run s))
    (hends : ∀ done w, I done w → J w) (htree : s.tree = t) (hfolders : s.folders = [l.home])
    (h : I [] s.world) :
    Steps (l.inputsFault t) (inputs.map cutInput) (I (asked inputs)) J s
      ((Loading.loadInputs reload inputs).run.run s) := by
  have hsteps := steps (taken t inputs) [] hstep (fun _ => asked_of_taken) htree hfolders h
  rw [Loading.run_loadInputs, htree, items_modules ht, Loading.loadItems, run_bind]
  unfold inputsFault
  revert hsteps
  generalize (((taken t inputs).map itemOf).mapM (Loading.load reload)).run.run s = ended
  intro hsteps
  cases hsteps with
  | failed f w' hfault hJ =>
    rw [hfault]
    exact .failed f w' rfl hJ
  | loaded ms w' hnone hI hretains hms =>
    rw [hnone]
    cases hrefusal : t.firstRefusal? inputs with
    | some f => exact .failed f w' rfl (hends _ w' hI)
    | none =>
      rw [taken_of_none hrefusal] at hms hI
      rw [List.nil_append, ← asked_eq] at hI
      exact .loaded ms w' rfl hI hretains hms

/-! What is generated for the modules. -/

/-- What a new world has made of the modules stands in a world that has run them once more. -/
theorem exists_relocation (h : l.Imported t w es) (hsited : l.Sited w')
    (h' : l.Refreshed t (asked inputs) w' es') :
    ∃ r : Relocation es es' w w', ∀ e ∈ es, l.Shows t e.module.name w' (r.other e) := by
  have htwin : ∀ e ∈ es, ∃ e' ∈ es', l.Shows t e.module.name w' e' :=
    fun e he => h'.shows _ (h.source e he).1
  classical
  choose! other hmem hshows using htwin
  refine ⟨⟨h.stores, h'.stores, h.covered, h.sited.own, hsited.own, other, hmem, fun e he => ?_,
    fun e he => ?_⟩, hshows⟩
  · exact (hshows e he).module.trans (h.source e he).2.1.symm
  · exact (hshows e he).content.trans (h.source e he).2.2.symm

/-- A module that is shown has the same names in both worlds. -/
theorem shares_of_shows (r : Relocation es es' w w') (h : l.Imported t w es) (hsited : l.Sited w')
    {e : Stretch} (he : e ∈ es) (hshows : l.Shows t e.module.name w' (r.other e)) :
    ∃ x x', r.Shares e.module.name x x' := by
  obtain ⟨j, hj⟩ := Option.isSome_iff_exists.mp hshows.found
  obtain ⟨x', hx', hname', -⟩ := hsited.loaded? hj
  have hsent := hshows.names
  rw [namesOf_of_loaded hx', r.alone_other he] at hsent
  obtain ⟨x, hx, -⟩ := r.shares_of_sent he (h.holds e he) hx' hname' hsent
  exact ⟨x, x', hx⟩

/-- For modules that are found as their files have them the same is generated in both worlds. -/
theorem agree_of_refreshed (ht : l.Laid t) (h : l.Imported t w es)
    (hfound : ∀ n ∈ asked inputs, (w.current.lookup n).isSome = true) (hsited : l.Sited w')
    (h' : l.Refreshed t (asked inputs) w' es') {ms ms' : List InputModule}
    (hms : List.Forall₂ (Handed w) (inputs.map cutInput) ms)
    (hms' : List.Forall₂ (Handed w') (inputs.map cutInput) ms') : Agree w w' ms ms' := by
  obtain ⟨r, hshows⟩ := exists_relocation h hsited h'
  have hshares : ∀ e ∈ es, ∃ x x', r.Shares e.module.name x x' :=
    fun e he => shares_of_shows r h hsited he (hshows e he)
  refine r.agree (r.sharesNames hshares) (forall₂_along hms hms' ?_)
  rintro ⟨n, requested⟩ hitem _ _ ⟨i, hi, rfl⟩ ⟨j, hj, rfl⟩
  have hn : n ∈ asked inputs := asked_of_item hitem
  obtain ⟨e, he, rfl⟩ := h.known n hn (hfound n hn)
  obtain ⟨x, x', hx⟩ := hshares e he
  have hnames := namesOf_of_loaded hx.left
  have hnames' := namesOf_of_loaded hx.right
  have hbound := ht.nodup_bound (involved_of_asked hn)
  obtain ⟨-, e₁, he₁, hshown⟩ := h.keys_namesOf ht hn (hfound _ hn)
  have hshown' := hshows e he
  refine ⟨e.module.name, i, j, x, x', hi, hj, hx, rfl, rfl, rfl, ?_, fun _ => ?_⟩
  · rintro rfl
    refine r.sameClasses_of_order hx (hnames ▸ hshown.nodup) (hnames' ▸ hshown'.nodup) ?_
    rw [← hnames, ← hnames', hshown.classes (h.stores.made e₁ he₁) hbound hitem,
      hshown'.classes (h'.stores.made _ (r.mem_other e he)) hbound hitem]
  · exact (hsited.file hx.right).trans (h.sited.file hx.left).symm

/-- Loading modules in a world that has nothing but what they have made. -/
theorem steps_import (ht : l.Laid t) (htree : s.tree = t) (hfolders : s.folders = [l.home])
    (h : l.Opened t [] s.world) :
    Steps (l.inputsFault t) (inputs.map cutInput) (l.Opened t (asked inputs)) (fun _ => True) s
      ((Loading.loadInputs false inputs).run.run s) :=
  steps_loadInputs ht (fun _ _ _ htree hfolders hn h => step_import ht htree hfolders hn h)
    (fun _ _ _ => trivial) htree hfolders h

/-- Loading modules once more. -/
theorem steps_reload {past later : List FileTree} (hist : l.History (past ++ t :: later))
    (htree : s.tree = t) (hfolders : s.folders = [l.home])
    (h : l.Ready (fun _ t' => t' ∈ past) s.world) :
    Steps (l.inputsFault t) (inputs.map cutInput) (l.Reopened t past (asked inputs))
      (l.Ready fun _ t' => t' ∈ past ++ [t]) s ((Loading.loadInputs true inputs).run.run s) := by
  have ht := hist.laid t (List.mem_append_right _ (List.mem_cons_self ..))
  have hends : ∀ done w, l.Reopened t past done w → l.Ready (fun _ t' => t' ∈ past ++ [t]) w := by
    rintro done w ⟨hready, -⟩
    refine hready.mono fun n _ t' ht' => ?_
    rcases ht' with ht' | ⟨rfl, -⟩
    · exact List.mem_append_left _ ht'
    · exact List.mem_append_right _ (List.mem_singleton_self _)
  refine steps_loadInputs ht
    (fun _ _ _ htree hfolders hn h => step_reload hist htree hfolders hn h) hends htree hfolders
    ⟨h.mono fun _ _ _ ht' => .inl ht', [], ?_, fun _ hn => (List.not_mem_nil hn).elim⟩
  exact ⟨h.sited.closed, h.sited.unmarked, fun _ he => (List.not_mem_nil he).elim, .nil⟩

/-- Loading modules ends as it does in a new session, if it leaves them as their files have them. -/
theorem endAlike_of_steps (ht : l.Laid t) {I J : World → Prop}
    (hI : ∀ w, I w → l.Sited w ∧ ∃ es, l.Refreshed t (asked inputs) w es)
    {ended : Except InputFault (List InputModule) × Session}
    (h : Steps (l.inputsFault t) (inputs.map cutInput) I J s ended) :
    Loading.EndAlike ended ((Loading.loadInputs false inputs).run.run (Session.fresh t)) := by
  have hfresh : Steps (l.inputsFault t) (inputs.map cutInput) (l.Opened t (asked inputs))
      (fun _ => True) (Session.fresh t)
      ((Loading.loadInputs false inputs).run.run (Session.fresh t)) :=
    steps_import ht rfl (congrArg (fun p : Place => [p]) ht.home)
      ⟨⟨[], imported_initial l t⟩, fun _ hn => (List.not_mem_nil hn).elim⟩
  revert hfresh
  generalize (Loading.loadInputs false inputs).run.run (Session.fresh t) = ended₀
  intro hfresh
  cases h with
  | failed f w' hfault _ =>
    cases hfresh with
    | failed f₀ w₀ hfault₀ _ =>
      obtain rfl := Option.some.inj (hfault.symm.trans hfault₀)
      exact .failed f _ _
    | loaded ms₀ w₀ hnone _ _ _ => cases hfault.symm.trans hnone
  | loaded ms w' hnone hend _ hms =>
    cases hfresh with
    | failed f₀ w₀ hfault₀ _ => cases hfault₀.symm.trans hnone
    | loaded ms₀ w₀ _ hopened _ hms₀ =>
      obtain ⟨hsited, es', hrefreshed⟩ := hI w' hend
      obtain ⟨⟨es, himported⟩, hfound⟩ := hopened
      exact .loaded (agree_of_refreshed ht himported hfound hsited hrefreshed hms₀ hms)

end Layout

namespace Command

section Rounds

variable {r : Request} {c : Console} {batches : List Batch} {past later : List FileTree}
  {l : Layout r.arguments.inputs}

/-- A round over modules is fresh, and what they have bound then is what all versions bind. -/
theorem round_reloads (hist : l.History (past ++ c.session.tree :: later))
    (hfolders : c.session.folders = [l.home])
    (h : l.Ready (fun _ t' => t' ∈ past) c.session.world) :
    SameRun r true c ∧ ((runRound r true).run.run c).2.session.folders = [l.home] ∧
      l.Ready (fun _ t' => t' ∈ past ++ [c.session.tree])
        ((runRound r true).run.run c).2.session.world := by
  have ht := hist.laid _ (List.mem_append_right _ (List.mem_cons_self ..))
  have hsteps := Layout.steps_reload hist rfl hfolders h
  refine ⟨sameRun_of_endAlike (Layout.endAlike_of_steps ht (fun w hw => ⟨hw.1.sited, hw.2⟩) hsteps), ?_⟩
  have hready := hsteps.either (fun w hw => hw.1.mono fun _ _ t' ht' => ?_) fun _ hw => hw
  · rw [run_runRound]
    obtain ⟨hworld, hfolders'⟩ := session_runOnce r true c
    dsimp only
    rw [hworld, hfolders']
    exact ⟨hsteps.session.2.trans hfolders, hready⟩
  · rcases ht' with ht' | ⟨rfl, -⟩
    · exact List.mem_append_left _ ht'
    · exact List.mem_append_right _ (List.mem_singleton_self _)

/-- All rounds over modules are fresh. -/
theorem rounds_reload (hist : l.History (past ++ (rounds r batches c).map (·.session.tree)))
    (hfolders : c.session.folders = [l.home])
    (h : l.Ready (fun _ t' => t' ∈ past) c.session.world) :
    ∀ x ∈ rounds r batches c, SameRun r true x := by
  induction batches generalizing c past with
  | nil => exact fun x hx => (List.not_mem_nil hx).elim
  | cons b batches ih =>
    rw [rounds] at hist ⊢
    by_cases hempty : b.watched.isEmpty = true
    · rw [if_pos hempty] at hist ⊢
      refine ih hist ?_ ?_
      · rw [after_unwatched hempty]
        exact hfolders
      · rw [after_unwatched hempty]
        exact h
    · rw [if_neg hempty] at hist ⊢
      rw [List.map_cons] at hist
      obtain ⟨hsame, hfolders', hready⟩ := round_reloads (c := b.announced c) hist hfolders h
      rw [← after_watched hempty] at hfolders' hready
      rw [List.append_cons] at hist
      split at hist
      · next hgoes =>
        rw [if_pos hgoes]
        exact List.forall_mem_cons.mpr ⟨hsame, ih hist hfolders' hready⟩
      · next hends =>
        rw [if_neg hends]
        exact List.forall_mem_singleton.mpr hsame

end Rounds

section Watch

variable {templates : String} {environment : List (String × String)} {a : Arguments} {t : FileTree}
  {r : Request} {c c' : Console} {batches : List Batch}

theorem session_loaded (r : Request) (c : Console) : (c.loaded r).session =
    ((Loading.loadInputs false r.arguments.inputs).run.run c.session).2 := by
  unfold Console.loaded
  rw [run_loading]

/-- A watch over modules is fresh while their versions bind again what older ones have bound, in
the order of their public classes, and do not fail for want of it: the first round and those that
batches of changes start end as runs in new processes do on the files of the time. -/
theorem reloads_are_fresh {l : Layout r.arguments.inputs}
    (hstart : (start templates environment a).run (Console.fresh t) = (.watching r, c))
    (hist : l.History (t :: (rounds r batches c).map (·.session.tree))) :
    SameRun r false ((Console.fresh t).loaded r) ∧ ∀ x ∈ rounds r batches c, SameRun r true x := by
  have ht := hist.laid t (List.mem_cons_self ..)
  obtain ⟨printed, hc⟩ := begun_of_start hstart
  obtain ⟨ms, hms, -⟩ := loads_of_beginWatching (watching_of_start hstart).2
  have hhome : (Console.fresh t).session.folders = [l.home] :=
    congrArg (fun p : Place => [p]) ht.home
  have hsteps := Layout.steps_import (s := (Console.fresh t).session) ht rfl hhome
    ⟨⟨[], Layout.imported_initial l t⟩, fun _ hn => (List.not_mem_nil hn).elim⟩
  have hnone := hsteps.none_of_ok hms
  obtain ⟨htree, hfolders⟩ := hsteps.session
  have hopened := hsteps.world hnone
  rw [← session_loaded] at htree hfolders hopened
  -- The first round finds all modules as they were imported before.
  have hagain := Layout.steps_import ht htree (hfolders.trans hhome)
    ⟨hopened.1, fun _ hn => (List.not_mem_nil hn).elim⟩
  have hrefreshed : ∀ w, l.Opened t (asked r.arguments.inputs) w →
      l.Sited w ∧ ∃ es, l.Refreshed t (asked r.arguments.inputs) w es := by
    rintro w ⟨⟨es, h⟩, hfound⟩
    exact ⟨h.sited, es, h.refreshed ht hfound⟩
  refine ⟨sameRun_of_endAlike (htree.symm ▸ Layout.endAlike_of_steps ht hrefreshed hagain), ?_⟩
  obtain ⟨hworld, hfolders'⟩ := session_runOnce r false ((Console.fresh t).loaded r)
  have hbegun : c.session = ((runRound r false).run.run ((Console.fresh t).loaded r)).2.session := by
    rw [hc]
  rw [run_runRound] at hbegun
  obtain ⟨⟨es, himported⟩, hfound⟩ := hagain.world hnone
  change l.History ([t] ++ (rounds r batches c).map (·.session.tree)) at hist
  refine rounds_reload hist ?_ ?_
  · rw [hbegun]
    exact hfolders'.trans (hagain.session.2.trans (hfolders.trans hhome))
  · rw [hbegun]
    dsimp only
    rw [hworld]
    exact (himported.ready ht hfound).mono fun _ _ _ h => List.mem_singleton.mpr h

end Watch

/-! A watch over one module of a package. -/

/-- A package in the working directory, the module inside of it, and a template that writes one
header. -/
def packageTree (definitions : List Definition.ModuleItem) (version : Nat) : FileTree :=
  ⟨["work"], [(["work", "header"], .file (.bytes (Text.encode (slot "types[0].declaration"))) 0),
    (["work", "pkg"], .folder), (["work", "pkg", "__init__.py"], .file (.bytes []) 0),
    (["work", "pkg", "mod.py"], .file (.definitions ⟨false, definitions⟩) version)], version + 1⟩

/-- The module gets other definitions. -/
def redefining (definitions : List Definition.ModuleItem) : Batch :=
  ⟨(·.write ["work", "pkg", "mod.py"] (.definitions ⟨false, definitions⟩)), ["/work/pkg/mod.py"]⟩

/-- The arguments of a watch over the module. -/
def shapeWatch : Arguments :=
  { printedWatch with inputs := ["pkg.mod"], template := some "header" }

theorem asked_module : asked shapeWatch.inputs = ["pkg.mod"] := by decide

theorem packagesAround_module : SearchPath.packagesAround "pkg.mod" = ["pkg"] := by decide

theorem forall_involved_module {P : String → Prop} (hmodule : P "pkg.mod") (hpackage : P "pkg") :
    ∀ n ∈ involved shapeWatch.inputs, P n := by
  have hinvolved : involved shapeWatch.inputs = ["pkg.mod", "pkg"] := by decide
  rw [hinvolved]
  exact List.forall_mem_cons.mpr ⟨hmodule, List.forall_mem_singleton.mpr hpackage⟩

/-- Where the package and the module are. -/
def packageLayout : Layout shapeWatch.inputs where
  home := ["work"]
  site n :=
    if n = "pkg" then .source ["work", "pkg", "__init__.py"] (some [["work", "pkg"]])
    else .source ["work", "pkg", "mod.py"] none
  own := forall_involved_module ⟨by decide, by decide⟩ ⟨by decide, by decide⟩
  source := by
    rw [asked_module]
    exact List.forall_mem_singleton.mpr ⟨_, _, rfl⟩
  package := by
    rw [asked_module]
    refine List.forall_mem_singleton.mpr ?_
    rw [packagesAround_module]
    exact List.forall_mem_singleton.mpr ⟨by decide, rfl⟩

/-- The module is where it should be if it imports nothing and marks nothing. -/
theorem laid_packageTree {definitions : List Definition.ModuleItem} {version : Nat}
    (himports : ∀ module names, .imports module names ∉ definitions)
    (hunmarked : (packageLayout.solo (packageTree definitions version) "pkg.mod").2.Unmarked) :
    packageLayout.Laid (packageTree definitions version) := by
  have hnone : ∀ n ∈ involved shapeWatch.inputs, ∀ source,
      packageLayout.content (packageTree definitions version) n = .definitions source →
        ∀ module names, .imports module names ∉ source.definitions := by
    refine forall_involved_module (fun source h => ?_) fun source h => ?_
    · cases h
      exact himports
    · cases h
  constructor
  case home => rfl
  case modules => exact List.forall_mem_singleton.mpr rfl
  case located => exact forall_involved_module rfl rfl
  case abroad => exact fun n hn source h written names hmem => (hnone n hn source h _ _ hmem).elim
  case absolute =>
    exact fun n hn => .inr fun source h written names hmem => (hnone n hn source h _ _ hmem).elim
  case unmarked =>
    have hpackage : (soloRun (packageLayout.entry "pkg") (.bytes [])).2.Unmarked :=
      unmarked_soloRun rfl (by decide)
    exact forall_involved_module hunmarked hpackage
  case idle =>
    rw [asked_module]
    refine List.forall_mem_singleton.mpr ?_
    rw [packagesAround_module]
    exact List.forall_mem_singleton.mpr ⟨rfl, fun k => by cases k <;> rfl⟩

/-- A class with one field. -/
def fieldClass (name field annotation : String) : Definition.ModuleItem :=
  .cls (.mk name [] [] "" [.field field annotation none])

/-- What the module holds at first. -/
def oldShapes : List Definition.ModuleItem := [fieldClass "Point" "x" "int"]

/-- The module fails after its class. -/
def brokenShapes : List Definition.ModuleItem := oldShapes ++ [brokenItem]

/-- The class has changed, and there is another one. -/
def newShapes : List Definition.ModuleItem :=
  [fieldClass "Point" "x" "str", fieldClass "Circle" "center" "Point"]

/-- The names that every module starts with hide no name that every module has. -/
theorem builtinName?_preamble : ∀ name ∈ keys preamble, builtinName? name = none := by
  -- One half after the other, for either compares many texts.
  rw [← List.take_append_drop 24 (keys preamble)]
  exact List.forall_mem_append.mpr ⟨by decide +kernel, by decide +kernel⟩

/-- No variable of the library has a mark after the module is run alone. -/
def leavesUnmarked (files : FileTree) : Bool :=
  (List.range libraryVariables.length).all fun i =>
    (packageLayout.solo files "pkg.mod").2.typeVars[i]?.map TypeVariable.needsConstructor ==
      some false

theorem unmarked_of_leaves {files : FileTree} (h : leavesUnmarked files = true) :
    (packageLayout.solo files "pkg.mod").2.Unmarked :=
  unmarked_soloRun rfl fun i hi =>
    eq_of_beq (List.all_eq_true.mp h i (List.mem_range.mpr hi))

theorem history_shapes : packageLayout.History
    [packageTree oldShapes 0, packageTree brokenShapes 1, packageTree newShapes 2] := by
  obtain ⟨hold, hplain⟩ :
      packageLayout.bound (packageTree oldShapes 0) "pkg.mod" = keys preamble ++ ["Point"] ∧
      leavesUnmarked (packageTree oldShapes 0) = true := by decide +kernel
  obtain ⟨hraised, hbroken, hplain'⟩ :
      packageLayout.verdict (packageTree brokenShapes 1) "pkg.mod" =
        .error (.raised (.named "ValueError") "broken") ∧
      packageLayout.bound (packageTree brokenShapes 1) "pkg.mod" = keys preamble ++ ["Point"] ∧
      leavesUnmarked (packageTree brokenShapes 1) = true := by decide +kernel
  obtain ⟨hok, hnew, hclasses, hplain''⟩ :
      packageLayout.verdict (packageTree newShapes 2) "pkg.mod" = .ok () ∧
      packageLayout.bound (packageTree newShapes 2) "pkg.mod" =
        keys preamble ++ ["Point", "Circle"] ∧
      packageLayout.classes (packageTree newShapes 2) "pkg.mod" = ["Point", "Circle"] ∧
      leavesUnmarked (packageTree newShapes 2) = true := by decide +kernel
  constructor
  case laid =>
    exact List.forall_mem_cons.mpr
      ⟨laid_packageTree (by simp [oldShapes, fieldClass]) (unmarked_of_leaves hplain),
        List.forall_mem_cons.mpr
          ⟨laid_packageTree (by simp [brokenShapes, oldShapes, fieldClass, brokenItem])
            (unmarked_of_leaves hplain'),
          List.forall_mem_singleton.mpr
            (laid_packageTree (by simp [newShapes, fieldClass]) (unmarked_of_leaves hplain''))⟩⟩
  case visible =>
    have hnames : ∀ name ∈ ["Point", "Circle"], builtinName? name = none := by decide +kernel
    have happend : ∀ names : List String, names ⊆ ["Point", "Circle"] →
        ∀ name ∈ keys preamble ++ names, builtinName? name = none := fun names hsub =>
      List.forall_mem_append.mpr ⟨builtinName?_preamble, fun name hname => hnames name (hsub hname)⟩
    rw [asked_module]
    simp only [List.forall_mem_cons, List.not_mem_nil, false_imp_iff, implies_true, and_true]
    rw [hold, hbroken, hnew]
    exact ⟨happend _ (by decide), happend _ (by decide), happend _ (List.Subset.refl _)⟩
  case replaces =>
    rw [asked_module]
    have hlast : ∀ t, packageLayout.bound t "pkg.mod" = keys preamble ++ ["Point"] →
        packageLayout.Replaces t (packageTree newShapes 2) "pkg.mod" := by
      intro t ht
      refine Layout.replaces_of_ok hok ?_ ?_
      · rw [ht, hnew]
        exact List.forall_mem_append.mpr ⟨fun _ hname => List.mem_append_left _ hname,
          List.forall_mem_singleton.mpr (List.mem_append_right _ (List.mem_cons_self ..))⟩
      · rw [ht, hclasses]
        decide
    simp only [List.pairwise_cons, List.forall_mem_cons, List.not_mem_nil, false_imp_iff,
      implies_true, and_true, List.Pairwise.nil]
    exact ⟨⟨Layout.replaces_of_raised hraised, hlast _ hold⟩, hlast _ hbroken⟩

/-- The changes of the module. -/
def shapeChanges : List Batch := [redefining brokenShapes, redefining newShapes]

theorem shapeWatch_watches :
    (begunOn shapeWatch (packageTree oldShapes 0)).1.request?.isSome := by decide +kernel

theorem reloads_are_fresh_shapes : ∃ r c,
    (start "templates" [] shapeWatch).run (Console.fresh (packageTree oldShapes 0)) =
      (.watching r, c) ∧
    ∃ l : Layout r.arguments.inputs,
      l.History (packageTree oldShapes 0 :: (rounds r shapeChanges c).map (·.session.tree)) ∧
      SameRun r false ((Console.fresh (packageTree oldShapes 0)).loaded r) ∧
      ∀ x ∈ rounds r shapeChanges c, SameRun r true x := by
  obtain ⟨r, hr⟩ := Option.isSome_iff_exists.mp shapeWatch_watches
  have hstart := watching_of_request? hr
  generalize (begunOn shapeWatch (packageTree oldShapes 0)).2 = c at hstart
  obtain ⟨arguments, configuration, templates⟩ := r
  obtain rfl : arguments = shapeWatch := (watching_of_start hstart).1.arguments_eq
  have htrees := trees_watch shapeChanges rfl hstart
  have hist := history_shapes.sublist htrees
  exact ⟨_, c, hstart, packageLayout, hist, reloads_are_fresh hstart hist⟩

/-- Two classes. -/
def twoClasses : List Definition.ModuleItem :=
  [fieldClass "A" "x" "int", fieldClass "B" "y" "str"]

/-- The first class is not there any more. -/
def oneLess : Batch := redefining [fieldClass "B" "y" "str"]

theorem classWatch_differs : (begunOn shapeWatch (packageTree twoClasses 0)).1.request?.any
    (differs oneLess (begunOn shapeWatch (packageTree twoClasses 0)).2) = true := by decide +kernel

theorem laid_classes : ∀ files ∈ filesAfter [oneLess] (packageTree twoClasses 0),
    packageLayout.Laid files := by
  refine List.forall_mem_cons.mpr ⟨laid_packageTree (by simp [twoClasses, fieldClass]) ?_,
    List.forall_mem_singleton.mpr (laid_packageTree (by simp [fieldClass]) ?_)⟩ <;>
    exact unmarked_of_leaves (by decide +kernel)

/-- A class that is not in the file any more is written again. -/
theorem reloads_not_always_fresh : ∃ r c,
    (start "templates" [] shapeWatch).run (Console.fresh (packageTree twoClasses 0)) =
      (.watching r, c) ∧
    (∃ l : Layout r.arguments.inputs,
      ∀ files ∈ packageTree twoClasses 0 :: (rounds r [oneLess] c).map (·.session.tree),
        l.Laid files) ∧
    ∃ x ∈ rounds r [oneLess] c, ¬ SameRun r true x := by
  obtain ⟨r, hr, hdiffers⟩ := (Option.any_eq_true ..).mp classWatch_differs
  have hstart := watching_of_request? hr
  generalize (begunOn shapeWatch (packageTree twoClasses 0)).2 = c at hstart hdiffers
  obtain ⟨arguments, configuration, templates⟩ := r
  obtain rfl : arguments = shapeWatch := (watching_of_start hstart).1.arguments_eq
  have htrees := trees_watch [oneLess] rfl hstart
  refine ⟨_, c, hstart, ⟨packageLayout, fun files hfiles => laid_classes files
    (htrees.subset hfiles)⟩, oneLess.announced c, ?_, fun hsame => ?_⟩
  · have hwatched : oneLess.watched.isEmpty = false := rfl
    rw [rounds, hwatched]
    exact List.mem_cons_self ..
  · rw [differs, hsame.outcome, bne_self_eq_false] at hdiffers
    cases hdiffers

end Command

end TypeProjection
