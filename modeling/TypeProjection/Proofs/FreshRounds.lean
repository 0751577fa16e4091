import TypeProjection.Proofs.FreshOutcomes

/-!
# Rounds are fresh

While the command watches files, every round ends as a run in a new process on the files of that time
does. What is kept from one round to the next is what files make when they are run alone, in the
version in which they were loaded the last time; so a file is run again exactly when it has another
version, or failed, and a file that fails leaves no module.
-/

namespace TypeProjection

open Annotation
open Definition (Run run_bind)

namespace Command

section Rounds

variable {r : Request} {reload : Bool} {c : Console} {T : FileTree → Prop}
  {log : List Loading.Visit}

/-- The files that are loaded for the inputs. -/
def visited (r : Request) (c : Console) : List Loading.Visit :=
  Loading.visits c.session (Loading.listed c.session.tree r.arguments.inputs)

/-- The consoles when inputs are loaded: to begin with, in the first round, and in those of
batches. -/
def loadings (r : Request) (t : FileTree) (batches : List Batch) (c : Console) : List Console :=
  Console.fresh t :: (Console.fresh t).loaded r :: rounds r batches c

/-- What a session keeps is what files make when they are run alone, in the versions in which they
were loaded the last time. -/
def Holds (T : FileTree → Prop) (r : Request) (log : List Loading.Visit) (s : Session) : Prop :=
  (∃ es, Loading.Kept T r.arguments.inputs s es) ∧ Loading.Recalls T r.arguments.inputs log s

variable {s s' : Session} {batches : List Batch}

theorem Holds.of_same (h : Holds T r log s) (hworld : s'.world = s.world)
    (hfolders : s'.folders = s.folders) : Holds T r log s' := by
  obtain ⟨⟨es, hk⟩, hlog⟩ := h
  refine ⟨⟨es, hworld ▸ hk.stocks, hfolders ▸ hk.folders, ?_⟩, fun t p module ht hp => ?_⟩
  · rw [hworld]
    exact hk.kept
  · rw [hworld]
    exact hlog t p module ht hp

/-- Visits run what has to be run after others. -/
def AllFrugal (log vs : List Loading.Visit) : Prop :=
  ∀ front v rest, vs = front ++ v :: rest → Loading.Frugal (log ++ front) v

theorem AllFrugal.append {log vs ws : List Loading.Visit} (hvs : AllFrugal log vs)
    (hws : AllFrugal (log ++ vs) ws) : AllFrugal log (vs ++ ws) := by
  intro front v rest h
  rcases List.append_eq_append_iff.mp h with ⟨more, rfl, hrest⟩ | ⟨more, hmore, hrest⟩
  · rw [← List.append_assoc]
    exact hws more v rest hrest
  · cases more with
    | nil =>
      rw [List.append_nil] at hmore
      subst hmore
      have h := hws [] v rest hrest.symm
      rwa [List.append_nil] at h
    | cons u more =>
      obtain ⟨rfl, -⟩ := List.cons.inj hrest
      exact hvs front v more hmore

/-- Loading the inputs once more. -/
theorem Holds.load (hist : Loading.FileHistory T r.arguments.inputs) (h : Holds T r log c.session)
    (hT : T c.session.tree) (reload : Bool) :
    AllFrugal log (visited r c) ∧ Holds T r (log ++ visited r c)
      ((Loading.loadInputs reload r.arguments.inputs).run.run c.session).2 := by
  obtain ⟨⟨es, hk⟩, hlog⟩ := h
  obtain ⟨hfrugal, hrecalls⟩ := hk.visits hist hlog hT fun _ hp => hp
  obtain ⟨x, s', es', hrun, hstep⟩ := hk.loads hist reload hT
  have hend : s' = Loading.endOf c.session (visited r c) := by
    have hsession := congrArg Prod.snd hrun
    rw [Loading.run_loadInputs, Loading.items_of_paths (hist.paths _ hT), Loading.loadItems, run_bind,
      Loading.run_visits] at hsession
    refine hsession.symm.trans ?_
    cases (Loading.visits c.session _).mapM Loading.Visit.gave with
    | error f => rfl
    | ok ms => cases c.session.tree.firstRefusal? r.arguments.inputs <;> rfl
  rw [hrun]
  exact ⟨hfrugal, ⟨es', hstep.kept⟩, hend ▸ hrecalls⟩

/-- A round is fresh, and it leaves what it keeps in order. -/
theorem Holds.round (hist : Loading.FileHistory T r.arguments.inputs) (h : Holds T r log c.session)
    (hT : T c.session.tree) (reload : Bool) :
    SameRun r reload c ∧ AllFrugal log (visited r c) ∧
      Holds T r (log ++ visited r c) ((runRound r reload).run.run c).2.session := by
  obtain ⟨hfrugal, hholds⟩ := h.load hist hT reload
  obtain ⟨⟨es, hk⟩, -⟩ := h
  refine ⟨sameRun_of_endAlike (hk.loads_fresh hist reload hT), hfrugal, ?_⟩
  rw [run_runRound]
  exact hholds.of_same (session_runOnce r reload c).1 (session_runOnce r reload c).2

/-- All rounds of batches are fresh. -/
theorem Holds.rounds (hist : Loading.FileHistory T r.arguments.inputs)
    (h : Holds T r log c.session) (hT : ∀ x ∈ rounds r batches c, T x.session.tree) :
    (∀ x ∈ Command.rounds r batches c, SameRun r true x) ∧
      AllFrugal log ((Command.rounds r batches c).flatMap (visited r)) := by
  induction batches generalizing c log with
  | nil =>
    refine ⟨fun x hx => (List.not_mem_nil hx).elim, fun front v rest h => ?_⟩
    exact (List.append_ne_nil_of_right_ne_nil _ (List.cons_ne_nil _ _) h.symm).elim
  | cons b batches ih =>
    rw [Command.rounds] at hT ⊢
    by_cases hempty : b.watched.isEmpty = true
    · rw [if_pos hempty] at hT ⊢
      refine ih (h.of_same ?_ ?_) hT
      · rw [after_unwatched hempty]
        rfl
      · rw [after_unwatched hempty]
        rfl
    · rw [if_neg hempty] at hT ⊢
      obtain ⟨hnow, hlater⟩ := List.forall_mem_cons.mp hT
      have hbegins : Holds T r log (b.announced c).session := h.of_same rfl rfl
      obtain ⟨hsame, hfrugal, hholds⟩ := hbegins.round hist hnow true
      rw [← after_watched hempty] at hholds
      rw [List.flatMap_cons]
      split at hlater
      · next hgoes =>
        rw [if_pos hgoes]
        obtain ⟨hrounds, hrest⟩ := ih hholds hlater
        exact ⟨List.forall_mem_cons.mpr ⟨hsame, hrounds⟩, hfrugal.append hrest⟩
      · next hends =>
        rw [if_neg hends, List.flatMap_nil, List.append_nil]
        exact ⟨List.forall_mem_singleton.mpr hsame, hfrugal⟩

end Rounds

/-! The whole watch. -/

section Watch

variable {templates : String} {environment : List (String × String)} {a : Arguments} {t : FileTree}
  {r : Request} {c : Console} {batches : List Batch}

/-- A watch over files is fresh. The first round and those that batches of changes start end as runs
in new processes do on the files of the time; a file is run again only where the version in which it
was loaded well the last time is not the one that it has, and one that fails leaves no module. -/
theorem rounds_are_fresh
    (hstart : (start templates environment a).run (Console.fresh t) = (.watching r, c))
    (hist : Loading.FileHistory (fun files => ∃ x ∈ loadings r t batches c, x.session.tree = files)
      r.arguments.inputs) :
    SameRun r false ((Console.fresh t).loaded r) ∧
      (∀ x ∈ rounds r batches c, SameRun r true x) ∧
      ∀ front v rest, (loadings r t batches c).flatMap (visited r) = front ++ v :: rest →
        Loading.Frugal front v := by
  generalize hT : (fun files => ∃ x ∈ loadings r t batches c, x.session.tree = files) = T at hist
  have hmem : ∀ x ∈ loadings r t batches c, T x.session.tree := by
    rw [← hT]
    exact fun x hx => ⟨x, hx, rfl⟩
  rw [loadings] at hmem
  obtain ⟨hfresh, hmem⟩ := List.forall_mem_cons.mp hmem
  obtain ⟨hloaded, hmem⟩ := List.forall_mem_cons.mp hmem
  obtain ⟨printed, hc⟩ := begun_of_start hstart
  have hbegins : Holds T r [] (Console.fresh t).session :=
    ⟨⟨[], Loading.kept_fresh hfresh⟩, fun _ _ _ _ _ => rfl⟩
  obtain ⟨hfrugal, hholds⟩ := hbegins.load hist hfresh false
  have hloads : ((Console.fresh t).loaded r).session =
      ((Loading.loadInputs false r.arguments.inputs).run.run (Console.fresh t).session).2 := by
    unfold Console.loaded
    rw [run_loading]
  rw [← hloads] at hholds
  obtain ⟨hfirst, hfrugal', hholds⟩ := hholds.round hist hloaded false
  have hbegun : c.session = ((runRound r false).run.run ((Console.fresh t).loaded r)).2.session := by
    rw [hc]
  rw [← hbegun] at hholds
  obtain ⟨hrounds, hrest⟩ := hholds.rounds hist hmem
  refine ⟨hfirst, hrounds, ?_⟩
  rw [loadings, List.flatMap_cons, List.flatMap_cons]
  exact AllFrugal.append hfrugal (AllFrugal.append hfrugal' hrest)

end Watch

/-! A watch over one file that prints: no round changes a file. -/

/-- The files at the beginning, and those after each batch of changes. -/
def filesAfter : List Batch → FileTree → List FileTree
  | [], t => [t]
  | b :: rest, t => t :: filesAfter rest (b.edit t)

section Printed

variable {templates : String} {environment : List (String × String)} {a : Arguments} {t : FileTree}
  {r : Request} {reload : Bool} {c : Console} {batches : List Batch}

/-- A round that prints its text leaves the files alone. -/
theorem tree_runRound (h : r.target = none) (c : Console) :
    ((runRound r reload).run.run c).2.session.tree = c.session.tree := by
  have hquiet : Quiet r.arguments.verbose (produce r reload) := quiet_produce
  have htree := hquiet.tree c
  rw [run_runRound]
  change ((runOnce r reload).run.run c).2.session.tree = _
  unfold runOnce
  rw [run_bind, h]
  revert htree
  rcases (produce r reload).run.run c with ⟨f | text, c'⟩ <;> intro htree
  · exact htree
  · have hprints : ((emit none text).run.run c').2.session.tree = c'.session.tree := by
      unfold emit
      cases Text.ofPoints? text <;> rfl
    exact hprints.trans htree

theorem tree_after (h : r.target = none) (b : Batch) (c : Console) :
    (b.after r c).session.tree = b.edit c.session.tree := by
  by_cases hempty : b.watched.isEmpty = true
  · rw [after_unwatched hempty]
    rfl
  · rw [after_watched hempty]
    exact tree_runRound h (b.announced c)

/-- Rounds that print run on the files that the changes leave, one after another. -/
theorem trees_rounds (h : r.target = none) : (c.session.tree ::
    (rounds r batches c).map (·.session.tree)).Sublist (filesAfter batches c.session.tree) := by
  induction batches generalizing c with
  | nil => exact .refl _
  | cons b batches ih =>
    have hrest := ih (c := b.after r c)
    rw [tree_after h] at hrest
    rw [rounds, filesAfter]
    refine .cons_cons _ ?_
    split
    · exact (List.sublist_cons_self ..).trans hrest
    · split
      · exact hrest
      · exact .trans (.cons_cons _ (List.nil_sublist _)) hrest

/-- A watch that prints runs its rounds on the files that the changes leave. -/
theorem trees_watch (batches : List Batch) (ha : a.out = none)
    (hstart : (start templates environment a).run (Console.fresh t) = (.watching r, c)) :
    (t :: (rounds r batches c).map (·.session.tree)).Sublist (filesAfter batches t) := by
  have htarget : r.target = none := by
    rw [(watching_of_start hstart).1.target_eq, ha]
    rfl
  obtain ⟨printed, hc⟩ := begun_of_start hstart
  have hbegun : c.session.tree = t := by
    rw [hc]
    exact (tree_runRound htarget _).trans (loaded_leaves r (Console.fresh t)).1
  exact hbegun ▸ trees_rounds htarget

/-- A watch that prints loads its inputs from the files that the changes leave. -/
theorem tree_loadings (batches : List Batch) (ha : a.out = none)
    (hstart : (start templates environment a).run (Console.fresh t) = (.watching r, c)) :
    ∀ files, (∃ x ∈ loadings r t batches c, x.session.tree = files) →
      files ∈ filesAfter batches t := by
  have htrees := (trees_watch batches ha hstart).subset
  rintro _ ⟨x, hx, rfl⟩
  rcases List.mem_cons.mp hx with rfl | hx
  · exact htrees (List.mem_cons_self ..)
  rcases List.mem_cons.mp hx with rfl | hx
  · rw [(loaded_leaves r (Console.fresh t)).1]
    exact htrees (List.mem_cons_self ..)
  · exact htrees (List.mem_cons_of_mem _ (List.mem_map_of_mem hx))

/-- What a tree is when inputs list one file that imports nothing. -/
structure ListsOne (inputs : List String) (p : Place) (content : Nat → FileContent)
    (t : FileTree) : Prop where
  proper : t.Proper
  paths : ∀ input ∈ inputs, t.looksLikePath input = true
  listed : Loading.listed t inputs = [p]
  holds : ∃ v, t.node? p = some (.file (content v) v)

section One

variable {T : FileTree → Prop} {inputs : List String} {p q : Place} {content : Nat → FileContent}
  {module : String} {v : Nat}

theorem ListsOne.place_eq (h : ListsOne inputs p content t) (hq : Loading.Lists t inputs q module) :
    q = p := by
  have hmem : q ∈ Loading.listed t inputs := hq.listed
  rw [h.listed] at hmem
  exact List.mem_singleton.mp hmem

theorem ListsOne.content_eq (h : ListsOne inputs p content t) {held : FileContent}
    (hsource : Loading.Source t inputs q module held v) : held = content v := by
  obtain ⟨v', hv'⟩ := h.holds
  have hnode := hsource.node
  rw [h.place_eq hsource.toLists, hv'] at hnode
  cases hnode
  rfl

/-- One file that imports nothing changes as it should. -/
theorem fileChanges_of_one (h : ∀ t, T t → ListsOne inputs p content t)
    (himports : ∀ v source, content v = .definitions source → ∀ module names,
      .imports module names ∉ source.definitions) : Loading.FileChanges T inputs where
  proper t ht := (h t ht).proper
  paths t ht := (h t ht).paths
  apart ht ht' hq hq' := ((h _ ht).place_eq hq).trans ((h _ ht').place_eq hq').symm
  versions ht ht' hsource hsource' :=
    ((h _ ht).content_eq hsource).trans ((h _ ht').content_eq hsource').symm
  abroad ht hsource _ source hdefinitions written names hmem := by
    rw [(h _ ht).content_eq hsource] at hdefinitions
    exact (himports _ source hdefinitions written names hmem).elim

theorem fileHistory_of_one (h : ∀ t, T t → ListsOne inputs p content t)
    (himports : ∀ v source, content v = .definitions source → ∀ module names,
      .imports module names ∉ source.definitions)
    (hname : moduleNameOf? ⟨"/", p⟩ = some module)
    (hunmarked : ∀ v, (soloRun (Loading.fileModule p module) (content v)).2.Unmarked) :
    Loading.FileHistory T inputs where
  toFileChanges := fileChanges_of_one h himports
  unmarked ht hsource := by
    obtain rfl := (h _ ht).place_eq hsource.toLists
    obtain rfl := Option.some.inj (hsource.named.symm.trans hname)
    rw [(h _ ht).content_eq hsource]
    exact hunmarked _

end One

end Printed

/-- A tree with files in its working directory alone is proper. -/
theorem proper_of_flat {t : FileTree} (hhome : ∀ n ∈ t.home, Path.IsName n)
    (h : ∀ e ∈ t.entries, ∃ n, e.1 = t.home ++ [n] ∧ Path.IsName n) : t.Proper := by
  refine ⟨fun hback => (hhome _ hback).notBack rfl, fun e he => ?_, fun e he q hq hne => ?_⟩
  · obtain ⟨n, hplace, hn⟩ := h e he
    rw [hplace]
    exact List.forall_mem_append.mpr ⟨hhome, List.forall_mem_singleton.mpr hn⟩
  · obtain ⟨n, hplace, -⟩ := h e he
    rw [hplace] at hq hne
    rcases List.prefix_concat_iff.mp hq with hself | hprefix
    · exact (hne hself).elim
    · exact FileTree.isFolderAt_of_prefix_home hprefix

/-- The working directory with the file of the watch, and other files before it. -/
def modelsTree (others : List (String × FileContent)) (definitions : List Definition.ModuleItem)
    (version : Nat) : FileTree :=
  ⟨["work"], others.map (fun o => (["work", o.1], .file o.2 0)) ++
    [(["work", "models.py"], .file (.definitions ⟨false, definitions⟩) version)], version + 1⟩

theorem proper_modelsTree {others : List (String × FileContent)}
    (hothers : ∀ o ∈ others, Path.IsName o.1) (definitions : List Definition.ModuleItem)
    (version : Nat) : (modelsTree others definitions version).Proper := by
  have hwork : Path.IsName "work" := ⟨by decide, by decide, by decide, by decide⟩
  have hmodels : Path.IsName "models.py" := ⟨by decide, by decide, by decide, by decide⟩
  refine proper_of_flat (List.forall_mem_singleton.mpr hwork) fun e he => ?_
  rcases List.mem_append.mp he with he | he
  · obtain ⟨o, ho, rfl⟩ := List.mem_map.mp he
    exact ⟨o.1, rfl, hothers o ho⟩
  · rw [List.mem_singleton.mp he]
    exact ⟨"models.py", rfl, hmodels⟩

/-- The arguments of the watch over one file, with the text printed. -/
def printedWatch : Arguments := { watchedFile with out := none }

theorem printedWatch_watches : (begunOn printedWatch emptyFile).1.request?.isSome := by
  decide +kernel

/-- What the file holds: nothing, a failure, and a class. -/
def heldContent : Nat → FileContent
  | 0 => .definitions ⟨false, []⟩
  | 1 => .definitions ⟨false, [brokenItem]⟩
  | _ => .definitions ⟨false, [pointClass]⟩

theorem filesAfter_fileChanges : filesAfter fileChanges emptyFile =
    [modelsTree [] [] 0, modelsTree [] [brokenItem] 1, modelsTree [] [pointClass] 2] := rfl

theorem listsOne_models : ∀ t ∈ filesAfter fileChanges emptyFile,
    ListsOne ["models.py"] ["work", "models.py"] heldContent t := by
  have hproper : ∀ definitions version, (modelsTree [] definitions version).Proper :=
    proper_modelsTree fun _ h => (List.not_mem_nil h).elim
  rw [filesAfter_fileChanges]
  simp only [List.forall_mem_cons, List.not_mem_nil, false_imp_iff, implies_true, and_true]
  refine ⟨⟨hproper .., ?_, by decide, 0, rfl⟩, ⟨hproper .., ?_, by decide, 1, rfl⟩,
    ⟨hproper .., ?_, by decide, 2, rfl⟩⟩ <;>
    exact List.forall_mem_singleton.mpr (by decide)

theorem imports_heldContent (v : Nat) (source : Definition.Source)
    (h : heldContent v = .definitions source) (module : String) (names : List String) :
    .imports module names ∉ source.definitions := by
  match v with
  | 0 => cases h; simp
  | 1 => cases h; simp [brokenItem]
  | _ + 2 => cases h; simp [pointClass]

theorem unmarked_heldContent (v : Nat) : (soloRun (Loading.fileModule ["work", "models.py"]
    "_tsgen_input__work_models") (heldContent v)).2.Unmarked := by
  match v with
  | 0 => exact unmarked_soloRun rfl (by decide +kernel)
  | 1 => exact unmarked_soloRun rfl (by decide +kernel)
  | n + 2 =>
    have hclass : heldContent (n + 2) = heldContent 2 := rfl
    rw [hclass]
    exact unmarked_soloRun rfl (by decide +kernel)

theorem rounds_are_fresh_models : ∃ r c,
    (start "templates" [] printedWatch).run (Console.fresh emptyFile) = (.watching r, c) ∧
    Loading.FileHistory (fun files => ∃ x ∈ loadings r emptyFile fileChanges c,
      x.session.tree = files) r.arguments.inputs ∧
    SameRun r false ((Console.fresh emptyFile).loaded r) ∧
    (∀ x ∈ rounds r fileChanges c, SameRun r true x) ∧
    ∀ front v rest, (loadings r emptyFile fileChanges c).flatMap (visited r) = front ++ v :: rest →
      Loading.Frugal front v := by
  obtain ⟨r, hr⟩ := Option.isSome_iff_exists.mp printedWatch_watches
  have hstart := watching_of_request? hr
  generalize (begunOn printedWatch emptyFile).2 = c at hstart
  have hinputs : r.arguments.inputs = ["models.py"] := by
    rw [(watching_of_start hstart).1.arguments_eq]
    rfl
  have hfiles := tree_loadings fileChanges rfl hstart
  have hname : moduleNameOf? ⟨"/", ["work", "models.py"]⟩ = some "_tsgen_input__work_models" := by
    decide
  have hist : Loading.FileHistory (fun files => ∃ x ∈ loadings r emptyFile fileChanges c,
      x.session.tree = files) r.arguments.inputs := by
    rw [hinputs]
    exact fileHistory_of_one (fun t ht => listsOne_models t (hfiles t ht)) imports_heldContent hname
      unmarked_heldContent
  exact ⟨r, c, hstart, hist, rounds_are_fresh hstart hist⟩

/-- The same watch, with a template of its own that writes headers alone. -/
def headerWatch : Arguments := { printedWatch with template := some "header" }

/-- A class over a type variable of the library. -/
def boxClass : Definition.ModuleItem := .cls (.mk "Box" ["Generic[typing.AnyStr]"] [] "" [])

/-- The definition that marks the variable. -/
def markingItem : Definition.ModuleItem := .alias "M" "constructible(typing.AnyStr)"

/-- The template, and a file that marks the variable. -/
def markedFiles : FileTree :=
  modelsTree [("header", .bytes (Text.encode (slot "types[0].declaration")))] [markingItem, boxClass] 1

/-- The file does not mark the variable any more. -/
def unmarking : Batch := fileChange [boxClass]

/-- Does a round after a batch of changes end otherwise than a run in a new process? -/
def differs (b : Batch) (c : Console) (r : Request) : Bool :=
  (outcome r true (b.announced c)).toOption !=
    (outcome r false (Console.fresh (b.announced c).session.tree)).toOption

theorem headerWatch_differs : (begunOn headerWatch markedFiles).1.request?.any
    (differs unmarking (begunOn headerWatch markedFiles).2) = true := by decide +kernel

/-- What the file holds: the mark, and then the class alone. -/
def markedContent : Nat → FileContent
  | 1 => .definitions ⟨false, [markingItem, boxClass]⟩
  | _ => .definitions ⟨false, [boxClass]⟩

theorem listsOne_marked : ∀ t ∈ filesAfter [unmarking] markedFiles,
    ListsOne ["models.py"] ["work", "models.py"] markedContent t := by
  have hheader : Path.IsName "header" := ⟨by decide, by decide, by decide, by decide⟩
  have hproper : ∀ definitions version, (modelsTree [("header",
      .bytes (Text.encode (slot "types[0].declaration")))] definitions version).Proper :=
    proper_modelsTree (List.forall_mem_singleton.mpr hheader)
  have hafter : filesAfter [unmarking] markedFiles = [markedFiles, modelsTree [("header",
      .bytes (Text.encode (slot "types[0].declaration")))] [boxClass] 2] := rfl
  rw [hafter]
  simp only [List.forall_mem_cons, List.not_mem_nil, false_imp_iff, implies_true, and_true]
  refine ⟨⟨hproper .., ?_, by decide, 1, rfl⟩, ⟨hproper .., ?_, by decide, 2, rfl⟩⟩ <;>
    exact List.forall_mem_singleton.mpr (by decide)

/-- A mark on a variable of the library outlasts the file that made it, so a round may write it
where a run in a new process does not. -/
theorem rounds_not_always_fresh : ∃ r c,
    (start "templates" [] headerWatch).run (Console.fresh markedFiles) = (.watching r, c) ∧
    Loading.FileChanges (fun files => ∃ x ∈ loadings r markedFiles [unmarking] c,
      x.session.tree = files) r.arguments.inputs ∧
    ∃ x ∈ rounds r [unmarking] c, ¬ SameRun r true x := by
  obtain ⟨r, hr, hdiffers⟩ := (Option.any_eq_true ..).mp headerWatch_differs
  have hstart := watching_of_request? hr
  generalize (begunOn headerWatch markedFiles).2 = c at hstart hdiffers
  have hfiles := tree_loadings [unmarking] rfl hstart
  refine ⟨r, c, hstart, ?_, unmarking.announced c, ?_, fun hsame => ?_⟩
  · have hinputs : r.arguments.inputs = ["models.py"] := by
      rw [(watching_of_start hstart).1.arguments_eq]
      rfl
    rw [hinputs]
    refine fileChanges_of_one (fun t ht => listsOne_marked t (hfiles t ht)) fun v source hv => ?_
    unfold markedContent at hv
    split at hv <;> cases hv <;> simp [markingItem, boxClass]
  · have hwatched : unmarking.watched.isEmpty = false := by decide
    rw [rounds, hwatched]
    exact List.mem_cons_self ..
  · rw [differs, hsame.outcome, bne_self_eq_false] at hdiffers
    cases hdiffers

end Command

end TypeProjection
