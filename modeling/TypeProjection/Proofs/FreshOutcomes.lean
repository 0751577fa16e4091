import TypeProjection.Proofs.FileRuns
import TypeProjection.Proofs.RelocatedRoots
import TypeProjection.Proofs.WatchedOutput

/-!
# What a round ends in

A round over files ends as a run in a new process on the same files does: it writes the same text or
fails for the same reason, and it prints the same. What a session keeps of the files is what they make
when they are run alone, and what stands in a new world stands elsewhere in the world of the session,
so the same is generated from both.
-/

namespace TypeProjection

open Annotation
open Definition (Run run_bind)

/-! Lists in parallel. -/

section Parallel

variable {α β γ : Type} {R : α → β → Prop} {S : α → γ → Prop} {Q : β → γ → Prop} {xs : List α}
  {ys : List β} {zs : List γ}

theorem forall₂_along (hR : List.Forall₂ R xs ys) (hS : List.Forall₂ S xs zs)
    (h : ∀ x ∈ xs, ∀ y z, R x y → S x z → Q y z) : List.Forall₂ Q ys zs := by
  induction hR generalizing zs with
  | nil =>
    cases hS
    exact .nil
  | cons hxy _ ih =>
    obtain ⟨hx, hxs⟩ := List.forall_mem_cons.mp h
    cases hS with
    | cons hxz hS => exact .cons (hx _ _ hxy hxz) (ih hS hxs)

end Parallel

namespace Loading

variable {T : FileTree → Prop} {inputs : List String} {reload : Bool} {s s' s₀ : Session}
  {es es' es₀ : List Stretch} {t : FileTree}

/-- Why inputs that mean files cannot be loaded, if they cannot. -/
def inputsFault? (t : FileTree) (inputs : List String) : Option InputFault :=
  ((listed t inputs).findSome? (fault? t)).or (t.firstRefusal? inputs)

/-- What loading inputs leaves. -/
structure InputsStep (T : FileTree → Prop) (inputs : List String) (s : Session) (es : List Stretch)
    (r : Except InputFault (List InputModule)) (s' : Session) (es' : List Stretch) : Prop where
  kept : Kept T inputs s' es'
  tree : s'.tree = s.tree
  failed : ∀ f, inputsFault? s.tree inputs = some f → r = .error f
  loaded : inputsFault? s.tree inputs = none →
    ∃ modules, r = .ok modules ∧ List.Forall₂ (Given es' s') (listed s.tree inputs) modules
  covered : (∀ t, T t → t = s.tree) → inputsFault? s.tree inputs = none →
    s.world.Covered es → s'.world.Covered es'

/-- Loading inputs once more. -/
theorem Kept.loads (hist : FileHistory T inputs) (reload : Bool) (hk : Kept T inputs s es)
    (hT : T s.tree) : ∃ r s' es', (loadInputs reload inputs).run.run s = (r, s') ∧
      InputsStep T inputs s es r s' es' := by
  obtain ⟨r, s', es', hrun, hsteps⟩ := hk.steps hist reload hT (listed s.tree inputs)
    (fun _ hp => hp) (nodup_listed _ _)
  rw [run_loadInputs, items_of_paths (hist.paths _ hT), loadItems, run_bind, hrun]
  cases hfault : (listed s.tree inputs).findSome? (fault? s.tree) with
  | some f =>
    obtain rfl := hsteps.failed f hfault
    have hwhy : inputsFault? s.tree inputs = some f := by
      rw [inputsFault?, hfault]
      rfl
    refine ⟨.error f, s', es', rfl, hsteps.kept, hsteps.tree, fun f' hf' => ?_, fun hnone => ?_,
      fun _ hnone => ?_⟩
    · rw [hwhy] at hf'
      cases hf'
      rfl
    · rw [hwhy] at hnone
      cases hnone
    · rw [hwhy] at hnone
      cases hnone
  | none =>
    obtain ⟨modules, rfl, hgiven⟩ := hsteps.loaded hfault
    have hwhy : inputsFault? s.tree inputs = s.tree.firstRefusal? inputs := by
      rw [inputsFault?, hfault]
      rfl
    cases hrefusal : s.tree.firstRefusal? inputs with
    | some f =>
      rw [hrefusal] at hwhy
      refine ⟨.error f, s', es', rfl, hsteps.kept, hsteps.tree, fun f' hf' => ?_,
        fun hnone => ?_, fun _ hnone => ?_⟩
      · rw [hwhy] at hf'
        cases hf'
        rfl
      · rw [hwhy] at hnone
        cases hnone
      · rw [hwhy] at hnone
        cases hnone
    | none =>
      rw [hrefusal] at hwhy
      refine ⟨.ok modules, s', es', rfl, hsteps.kept, hsteps.tree, fun f' hf' => ?_,
        fun _ => ⟨modules, rfl, hgiven⟩, fun hsingle _ => hsteps.covered hsingle hfault⟩
      rw [hwhy] at hf'
      cases hf'

theorem covered_initial : World.initial.Covered [] :=
  fun _ _ hle hlt => (Nat.not_lt.mpr hle hlt).elim

/-- Loading ends alike in two sessions: it fails for the same reason, or the same is generated for
the modules that it gives. -/
inductive EndAlike : Except InputFault (List InputModule) × Session →
    Except InputFault (List InputModule) × Session → Prop
  | failed (f : InputFault) (s s₀ : Session) : EndAlike (.error f, s) (.error f, s₀)
  | loaded {ms ms₀ : List InputModule} {s s₀ : Session} : Agree s₀.world s.world ms₀ ms →
      EndAlike (.ok ms, s) (.ok ms₀, s₀)

theorem Kept.within (hk : Kept T inputs s es) : s.world.Within IsOwnName := by
  intro n i hi
  obtain ⟨e, he, rfl⟩ := hk.stocks.found n i hi
  obtain ⟨t, p, -, hlists⟩ := hk.isFileName he
  exact isOwnName_of_moduleNameOf hlists.named

/-- What a new session has made of the files stands in a session that keeps them. -/
theorem exists_relocation (hk : Kept (· = t) inputs s₀ es₀) (hk' : Kept T inputs s' es')
    (hcovered : s₀.world.Covered es₀) (htree : s'.tree = t) {modules : List InputModule}
    (hgiven : List.Forall₂ (Given es' s') (listed t inputs) modules) :
    Nonempty (Relocation es₀ es' s₀.world s'.world) := by
  have htwin : ∀ e ∈ es₀, ∃ e' ∈ es', e'.module = e.module ∧ e'.content = e.content := by
    intro e he
    obtain ⟨_, p, module, v, rfl, hsource, hmodule, -⟩ := hk.kept e he
    obtain ⟨m, -, module', i, hmodule', -, -, e', he', hfile, hcontent⟩ := exists_of_forall₂
      (List.Forall₂.flip (R := fun m p => Given es' s' p m) hgiven) hsource.listed
    obtain rfl : module' = module := Option.some.inj (hmodule'.symm.trans hsource.named)
    refine ⟨e', he', hfile.trans hmodule.symm, ?_⟩
    rw [hcontent, SearchPath.contentAt, htree, hsource.node]
  classical
  choose! other hmem hmodule hcontent using htwin
  exact ⟨{
    stores := hk.stocks.stores
    stores' := hk'.stocks.stores
    covered := hcovered
    own := hk.within
    own' := hk'.within
    other := other
    mem_other := hmem
    module := hmodule
    content := hcontent }⟩

/-- Loading inputs ends as it does in a new session. -/
theorem Kept.loads_fresh (hist : FileHistory T inputs) (reload : Bool) (hk : Kept T inputs s es)
    (hT : T s.tree) : EndAlike ((loadInputs reload inputs).run.run s)
      ((loadInputs false inputs).run.run (Session.fresh s.tree)) := by
  obtain ⟨r, s', es', hrun, hstep⟩ := hk.loads hist reload hT
  have hnow : ∀ t, t = s.tree → T t := by
    rintro t rfl
    exact hT
  have hnew : Kept (· = s.tree) inputs (Session.fresh s.tree) [] := kept_fresh rfl
  obtain ⟨r₀, s₀, es₀, hrun₀, hstep₀⟩ := hnew.loads (hist.mono hnow) false rfl
  rw [hrun, hrun₀]
  cases hfault : inputsFault? s.tree inputs with
  | some f =>
    rw [hstep.failed f hfault, hstep₀.failed f hfault]
    exact .failed f s' s₀
  | none =>
    obtain ⟨ms, rfl, hgiven⟩ := hstep.loaded hfault
    obtain ⟨ms₀, rfl, hgiven₀⟩ := hstep₀.loaded hfault
    have hcovered := hstep₀.covered (fun _ ht => ht) hfault covered_initial
    obtain ⟨h⟩ := exists_relocation hstep₀.kept hstep.kept hcovered hstep.tree hgiven
    have hshares : ∀ e ∈ es₀, ∃ m m', h.Shares e.module.name m m' ∧
        m'.names = renamedNames h.serials m.names := fun e he =>
      h.shares_of_holds he (hstep₀.kept.stocks.holds e he)
        (hstep.kept.stocks.holds _ (h.mem_other e he))
    have hfound : ∀ e ∈ es₀, ∃ m m', h.Shares e.module.name m m' := by
      intro e he
      obtain ⟨m, m', hm, -⟩ := hshares e he
      exact ⟨m, m', hm⟩
    refine .loaded (h.agree (h.sharesNames hfound) (forall₂_along hgiven₀ hgiven ?_))
    rintro p - m₀ m ⟨module, i, hmodule, rfl, hi, e, he, hfile, -⟩ ⟨module', j, hmodule', rfl, hj, -⟩
    obtain rfl : module = module' := Option.some.inj (hmodule.symm.trans hmodule')
    obtain ⟨x, x', hx, hnames⟩ := hshares e he
    refine ⟨e.module.name, i, j, x, x', ?_, ?_, hx, rfl, rfl, rfl,
      fun _ => h.sameClasses_of_renamed hnames, fun hasked => (hasked rfl).elim⟩
    · rw [hfile]
      exact hi
    · rw [hfile]
      exact hj

end Loading

namespace Command

/-! Consoles alike. -/

/-- A console holds the files that another holds, and what is printed and written there comes behind
what was there before. -/
structure Console.Echo (before a b : Console) : Prop where
  tree : a.session.tree = b.session.tree
  out : a.out = before.out ++ b.out
  err : a.err = before.err ++ b.err
  written : a.written = before.written ++ b.written

/-- A step ends alike on consoles that are alike, and leaves them so. It leaves the modules alone. -/
structure Job.Echoes {α : Type} (m : Job α) : Prop where
  result : ∀ {before a b : Console}, before.Echo a b → (m.run.run a).1 = (m.run.run b).1
  echo : ∀ {before a b : Console}, before.Echo a b → before.Echo (m.run.run a).2 (m.run.run b).2
  world : ∀ c : Console, (m.run.run c).2.session.world = c.session.world
  folders : ∀ c : Console, (m.run.run c).2.session.folders = c.session.folders

section Echoes

variable {α β ε : Type} {c before a b : Console} {r : Request} {verbose : Bool}

theorem echoes_pure (x : α) : Job.Echoes (pure x : Job α) :=
  ⟨fun _ => rfl, fun h => h, fun _ => rfl, fun _ => rfl⟩

theorem echoes_lifted (cause : ε → Fault) (x : Except ε α) : Job.Echoes (Job.lifted cause x) := by
  cases x <;> exact ⟨fun _ => rfl, fun h => h, fun _ => rfl, fun _ => rfl⟩

theorem echoes_bind {m : Job α} {f : α → Job β} (hm : m.Echoes) (hf : ∀ x, (f x).Echoes) :
    Job.Echoes (m >>= f) := by
  refine ⟨fun h => ?_, fun h => ?_, fun c => ?_, fun c => ?_⟩
  · have hresult := hm.result h
    have hecho := hm.echo h
    rw [run_bind, run_bind]
    revert hresult hecho
    rcases m.run.run _ with ⟨e | x, a'⟩ <;> rcases m.run.run _ with ⟨e' | x', b'⟩ <;>
      intro hresult hecho <;> cases hresult
    · rfl
    · exact (hf x).result hecho
  · have hresult := hm.result h
    have hecho := hm.echo h
    rw [run_bind, run_bind]
    revert hresult hecho
    rcases m.run.run _ with ⟨e | x, a'⟩ <;> rcases m.run.run _ with ⟨e' | x', b'⟩ <;>
      intro hresult hecho <;> cases hresult
    · exact hecho
    · exact (hf x).echo hecho
  · have hworld := hm.world c
    rw [run_bind]
    rcases hrun : m.run.run c with ⟨e | x, c'⟩ <;> rw [hrun] at hworld
    · exact hworld
    · exact ((hf x).world c').trans hworld
  · have hfolders := hm.folders c
    rw [run_bind]
    rcases hrun : m.run.run c with ⟨e | x, c'⟩ <;> rw [hrun] at hfolders
    · exact hfolders
    · exact ((hf x).folders c').trans hfolders

/-- What looks at the files alone goes on alike. -/
theorem echoes_look {f : FileTree → Job β} (hf : ∀ t, (f t).Echoes) :
    Job.Echoes (do let c ← get; f c.session.tree) := by
  have hrun : ∀ c : Console, (do let c ← get; f c.session.tree : Job β).run.run c =
      (f c.session.tree).run.run c := fun _ => rfl
  refine ⟨fun h => ?_, fun h => ?_, fun c => ?_, fun c => ?_⟩
  · rw [hrun, hrun, h.tree]
    exact (hf _).result h
  · rw [hrun, hrun, h.tree]
    exact (hf _).echo h
  · rw [hrun]
    exact (hf _).world c
  · rw [hrun]
    exact (hf _).folders c

theorem echoes_print (s : String) : Job.Echoes (Job.print s : Job Unit) where
  result _ := rfl
  echo h := ⟨h.tree, (congrArg (· ++ s) h.out).trans String.append_assoc, h.err, h.written⟩
  world _ := rfl
  folders _ := rfl

theorem echoes_complain (s : String) : Job.Echoes (Job.complain s : Job Unit) where
  result _ := rfl
  echo h := by
    refine ⟨h.tree, h.out, ?_, h.written⟩
    change _ ++ s ++ "\n" = _ ++ (_ ++ s ++ "\n")
    rw [h.err]
    simp only [String.append_assoc]
  world _ := rfl
  folders _ := rfl

theorem echoes_setTree (t : FileTree) : Job.Echoes (setTree t : Job Unit) where
  result _ := rfl
  echo h := ⟨rfl, h.out, h.err, h.written⟩
  world _ := rfl
  folders _ := rfl

theorem echoes_noteWritten (t : FileTree) (p : Path) (text : String) :
    Job.Echoes (noteWritten t p text : Job Unit) := by
  have hrun : ∃ places : List Place, ∀ c : Console,
      (noteWritten t p text : Job Unit).run.run c =
        (.ok (), { c with written := c.written ++ places }) := by
    unfold noteWritten
    extract_lets isSame
    cases isSame with
    | true =>
      refine ⟨[], fun c => ?_⟩
      rw [List.append_nil]
      rfl
    | false => exact ⟨[t.resolve p], fun _ => rfl⟩
  obtain ⟨places, hrun⟩ := hrun
  refine ⟨fun _ => ?_, fun h => ?_, fun c => ?_, fun c => ?_⟩
  · rw [hrun, hrun]
  · rw [hrun, hrun]
    exact ⟨h.tree, h.out, h.err, (congrArg (· ++ places) h.written).trans (List.append_assoc ..)⟩
  · rw [hrun]
  · rw [hrun]

theorem echoes_failed (f : Fault) : Job.Echoes (Job.failed f : Job α) :=
  ⟨fun _ => rfl, fun h => h, fun _ => rfl, fun _ => rfl⟩

theorem echoes_store (p : Path) (text : String) : Job.Echoes (store p text) := by
  refine echoes_look (f := fun t => (do
    let made ← Job.lifted Fault.file (t.makeFolders p.parent)
    setTree made
    let written ← Job.lifted Fault.file (made.writeText p text)
    setTree written
    noteWritten made p text)) fun t => ?_
  refine echoes_bind (echoes_lifted ..) fun made => ?_
  refine echoes_bind (echoes_setTree made) fun _ => ?_
  refine echoes_bind (echoes_lifted ..) fun written => ?_
  exact echoes_bind (echoes_setTree written) fun _ => echoes_noteWritten ..

theorem echoes_emit (target : Option Path) (text : List Text.Point) :
    Job.Echoes (emit target text) := by
  unfold emit
  split
  · exact echoes_bind (echoes_print _) fun _ => echoes_pure _
  · refine echoes_bind (echoes_store ..) fun _ => ?_
    exact echoes_bind (echoes_print _) fun _ => echoes_pure _
  · exact echoes_failed _
  · exact echoes_bind (echoes_store ..) fun _ => echoes_failed _

theorem echoes_report (e : Event) : Job.Echoes (Job.report verbose e : Job Unit) := by
  unfold Job.report
  split
  · exact echoes_complain _
  · split
    · exact echoes_complain _
    · exact echoes_pure ()

theorem echoes_reports (events : List Event) :
    Job.Echoes (events.forM fun e => (liftM (Job.report verbose e) : Job Unit)) := by
  induction events with
  | nil => exact echoes_pure ()
  | cons e events ih => exact echoes_bind (echoes_report e) fun _ => ih

end Echoes

/-! One round. -/

section Rounds

variable {r : Request} {reload : Bool} {c before a b : Console}

theorem defaultBase_options {τ : Type} {configuration : Configuration} {o : Options τ}
    (h : configuration.options = .ok o) : o.defaultBase = none := by
  unfold Configuration.options at h
  cases hskip : configuration.skip.mapM Text.Pattern.parse with
  | error f =>
    rw [hskip] at h
    cases h
  | ok skip =>
    rw [hskip] at h
    cases h
    rfl

/-- Reports what was generated, and gives its text. -/
def deliver (r : Request) (generated : Option Generated) : Job (List Text.Point) :=
  match generated with
  | none => Job.failed .endless
  | some g => do
    g.events.forM fun e => (Job.report r.arguments.verbose e : StateM Console Unit)
    Job.lifted Fault.template g.text

theorem echoes_deliver (r : Request) (generated : Option Generated) :
    (deliver r generated).Echoes := by
  cases generated with
  | none => exact echoes_failed _
  | some g => exact echoes_bind (echoes_reports _) fun _ => echoes_lifted ..

theorem run_generate (r : Request) (roots : List Value) (c : Console) :
    (generate r roots).run.run c =
      match r.configuration.options (τ := Value) with
      | .error f => (.error (.pattern f), c)
      | .ok o => (deliver r (c.session.world.types.generate o (packagedLoader r.templates)
          (c.session.world.types.record handle fullHandle)
          (roots.map c.session.world.describe))).run.run c := by
  unfold generate
  cases r.configuration.options (τ := Value) with
  | error f => rfl
  | ok o =>
    have hget : (get : Job Console).run.run c = (.ok c, c) := rfl
    rw [run_bind, hget]
    dsimp only [Job.lifted]
    rw [pure_bind]
    unfold deliver
    rfl

/-- What is generated for modules. -/
def generateFor (r : Request) (ms : List InputModule) : Job (List Text.Point) := do
  let w := (← get).session.world
  let roots ← Job.lifted Fault.input (InputModule.allRoots w ms)
  if roots.isEmpty then Job.failed .noTypes else generate r roots

theorem run_generateFor {ms : List InputModule} {roots : List Value}
    (h : InputModule.allRoots c.session.world ms = .ok roots) :
    (generateFor r ms).run.run c =
      if roots.isEmpty then (.error .noTypes, c) else (generate r roots).run.run c := by
  have hget : (get : Job Console).run.run c = (.ok c, c) := rfl
  unfold generateFor
  rw [run_bind, hget]
  dsimp only
  rw [h, Job.lifted, pure_bind]
  split <;> rfl

theorem run_generateFor_failed {ms : List InputModule} {f : InputFault}
    (h : InputModule.allRoots c.session.world ms = .error f) :
    (generateFor r ms).run.run c = (.error (.input f), c) := by
  have hget : (get : Job Console).run.run c = (.ok c, c) := rfl
  unfold generateFor
  rw [run_bind, hget]
  dsimp only
  rw [h]
  rfl

/-- The same is delivered for modules for which the same is generated. -/
theorem generateFor_echoes {ms ms' : List InputModule}
    (h : Agree b.session.world a.session.world ms ms') (hecho : before.Echo a b) :
    ((generateFor r ms').run.run a).1 = ((generateFor r ms).run.run b).1 ∧
      before.Echo ((generateFor r ms').run.run a).2 ((generateFor r ms).run.run b).2 := by
  cases h with
  | failed f hroots hroots' =>
    rw [run_generateFor_failed hroots, run_generateFor_failed hroots']
    exact ⟨rfl, hecho⟩
  | generated vs vs' hroots hroots' hempty hsame =>
    rw [run_generateFor hroots, run_generateFor hroots', hempty]
    split
    · exact ⟨rfl, hecho⟩
    rw [run_generate, run_generate]
    cases hoptions : r.configuration.options (τ := Value) with
    | error f => exact ⟨rfl, hecho⟩
    | ok o =>
      dsimp only
      rw [hsame o (packagedLoader r.templates) handle fullHandle (defaultBase_options hoptions)]
      exact ⟨(echoes_deliver ..).result hecho, (echoes_deliver ..).echo hecho⟩

theorem run_produce (r : Request) (reload : Bool) (c : Console) : (produce r reload).run.run c =
    match (Loading.loadInputs reload r.arguments.inputs).run.run c.session with
    | (.error f, s) => (.error (.input f), { c with session := s })
    | (.ok ms, s) => (generateFor r ms).run.run { c with session := s } := by
  unfold produce
  rw [run_bind, run_loading]
  rcases (Loading.loadInputs reload r.arguments.inputs).run.run c.session with ⟨f | ms, s⟩ <;> rfl

/-- A round gives what a run in a new process gives on the same files, if loading ends alike. -/
theorem produce_fresh (h : Loading.EndAlike
      ((Loading.loadInputs reload r.arguments.inputs).run.run c.session)
      ((Loading.loadInputs false r.arguments.inputs).run.run (Session.fresh c.session.tree))) :
    ((produce r reload).run.run c).1 =
        ((produce r false).run.run (Console.fresh c.session.tree)).1 ∧
      c.Echo ((produce r reload).run.run c).2
        ((produce r false).run.run (Console.fresh c.session.tree)).2 := by
  have htree : ((Loading.loadInputs reload r.arguments.inputs).run.run c.session).2.tree =
      c.session.tree := Loading.onlyReads_loadFrom c.session
  have htree₀ : ((Loading.loadInputs false r.arguments.inputs).run.run
      (Session.fresh c.session.tree)).2.tree = c.session.tree :=
    Loading.onlyReads_loadFrom (Session.fresh c.session.tree)
  rw [run_produce, run_produce,
    show (Console.fresh c.session.tree).session = Session.fresh c.session.tree from rfl]
  revert h htree htree₀
  generalize (Loading.loadInputs reload r.arguments.inputs).run.run c.session = ended
  generalize (Loading.loadInputs false r.arguments.inputs).run.run
    (Session.fresh c.session.tree) = ended₀
  rintro h htree htree₀
  have hecho : ∀ {s s₀ : Session}, s.tree = c.session.tree → s₀.tree = c.session.tree →
      c.Echo { c with session := s } { Console.fresh c.session.tree with session := s₀ } :=
    fun hs hs₀ => ⟨hs.trans hs₀.symm, String.append_empty.symm, String.append_empty.symm,
      (List.append_nil _).symm⟩
  cases h with
  | failed f s s₀ => exact ⟨rfl, hecho htree htree₀⟩
  | loaded hagree => exact generateFor_echoes hagree (hecho htree htree₀)

/-- A round ends as a run in a new process does on the same files, and it prints and writes the
same. -/
structure SameRun (r : Request) (reload : Bool) (c : Console) : Prop where
  outcome : outcome r reload c = outcome r false (Console.fresh c.session.tree)
  echo : c.Echo ((runOnce r reload).run.run c).2
    ((runOnce r false).run.run (Console.fresh c.session.tree)).2

theorem sameRun_of_endAlike (h : Loading.EndAlike
      ((Loading.loadInputs reload r.arguments.inputs).run.run c.session)
      ((Loading.loadInputs false r.arguments.inputs).run.run (Session.fresh c.session.tree))) :
    SameRun r reload c := by
  obtain ⟨hresult, hecho⟩ := produce_fresh h
  have hboth : outcome r reload c = outcome r false (Console.fresh c.session.tree) ∧
      c.Echo ((runOnce r reload).run.run c).2
        ((runOnce r false).run.run (Console.fresh c.session.tree)).2 := by
    unfold outcome runOnce
    rw [run_bind, run_bind]
    revert hresult hecho
    rcases (produce r reload).run.run c with ⟨e | text, a⟩ <;>
      rcases (produce r false).run.run (Console.fresh c.session.tree) with ⟨e' | text', b⟩ <;>
      intro hresult hecho <;> cases hresult
    · exact ⟨rfl, hecho⟩
    · exact ⟨(echoes_emit ..).result hecho, (echoes_emit ..).echo hecho⟩
  exact ⟨hboth.1, hboth.2⟩

/-- Generating leaves the modules alone. -/
theorem session_generateFor (r : Request) (ms : List InputModule) (c : Console) :
    ((generateFor r ms).run.run c).2.session.world = c.session.world ∧
      ((generateFor r ms).run.run c).2.session.folders = c.session.folders := by
  cases hroots : InputModule.allRoots c.session.world ms with
  | error f =>
    rw [run_generateFor_failed hroots]
    exact ⟨rfl, rfl⟩
  | ok roots =>
    rw [run_generateFor hroots, run_generate]
    split
    · exact ⟨rfl, rfl⟩
    · split
      · exact ⟨rfl, rfl⟩
      · exact ⟨(echoes_deliver ..).world c, (echoes_deliver ..).folders c⟩

/-- A round leaves the modules as loading the inputs leaves them. -/
theorem session_runOnce (r : Request) (reload : Bool) (c : Console) :
    ((runOnce r reload).run.run c).2.session.world =
        ((Loading.loadInputs reload r.arguments.inputs).run.run c.session).2.world ∧
      ((runOnce r reload).run.run c).2.session.folders =
        ((Loading.loadInputs reload r.arguments.inputs).run.run c.session).2.folders := by
  have hproduce : ((produce r reload).run.run c).2.session.world =
        ((Loading.loadInputs reload r.arguments.inputs).run.run c.session).2.world ∧
      ((produce r reload).run.run c).2.session.folders =
        ((Loading.loadInputs reload r.arguments.inputs).run.run c.session).2.folders := by
    rw [run_produce]
    rcases (Loading.loadInputs reload r.arguments.inputs).run.run c.session with ⟨f | ms, s⟩
    · exact ⟨rfl, rfl⟩
    · exact session_generateFor r ms { c with session := s }
  unfold runOnce
  rw [run_bind]
  revert hproduce
  rcases (produce r reload).run.run c with ⟨f | text, c'⟩ <;> intro hproduce
  · exact hproduce
  · exact ⟨((echoes_emit ..).world c').trans hproduce.1,
      ((echoes_emit ..).folders c').trans hproduce.2⟩

end Rounds

end Command

end TypeProjection
