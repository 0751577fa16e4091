import TypeProjection.Main
import TypeProjection.Proofs.SoundRuns
import TypeProjection.Proofs.WrittenFiles

/-!
# The output file while the command watches

Every round of watching ends in a text that was written, or in a fault that is reported on one line.
Neither loading nor declaring touches a file, so a round that fails there leaves the output file as
it was, and a round that does not fail leaves the text in it. By induction over the batches of
changes the file holds the text of the latest round that gave one, with two exceptions: a text with
surrogates empties the file before it turns out that it cannot be written, and a fault of which no
text can be made ends the watch instead of being reported.
-/

namespace TypeProjection

open Definition (Run run_bind run_tryCatch)

/-! Loading leaves the files alone. -/

namespace Loading

variable {α β : Type}

/-- A step of loading that changes no file, however it ends. -/
def OnlyReads (m : Loading α) : Prop := ∀ s : Session, (m.run.run s).2.tree = s.tree

theorem onlyReads_pure {a : α} : OnlyReads (pure a) := fun _ => rfl

theorem onlyReads_failed {f : InputFault} : OnlyReads (failed (α := α) f) := fun _ => rfl

theorem onlyReads_get : OnlyReads (get : Loading Session) := fun _ => rfl

theorem onlyReads_bind {m : Loading α} {f : α → Loading β} (hm : OnlyReads m)
    (hf : ∀ a, OnlyReads (f a)) : OnlyReads (m >>= f) := by
  intro s
  have hs := hm s
  rw [run_bind]
  rcases hrun : m.run.run s with ⟨e | a, s'⟩
  · rw [hrun] at hs
    exact hs
  · rw [hrun] at hs
    exact (hf a s').trans hs

theorem onlyReads_modify {f : Session → Session} (h : ∀ s, (f s).tree = s.tree) :
    OnlyReads (modify f : Loading Unit) := h

theorem onlyReads_running {cause : Annotation.Fault → InputFault} {body : Run α} :
    OnlyReads (running cause body) := by
  intro s
  unfold running
  rw [run_bind]
  change ((_ : Loading α).run.run s).2.tree = s.tree
  rcases hrun : body.run.run s.world with ⟨e | a, w⟩
  · rw [run_bind]
    rfl
  · rw [run_bind]
    rfl

theorem onlyReads_handleOf {module : String} : OnlyReads (handleOf module) := by
  refine onlyReads_bind onlyReads_get fun s => ?_
  split <;> exact onlyReads_pure

theorem onlyReads_launchFile {p : Path} {place : Place} {module : String} {version : Option Nat} :
    OnlyReads (launchFile p place module version) := by
  refine onlyReads_bind onlyReads_get fun s => ?_
  split
  · exact onlyReads_failed
  · refine onlyReads_bind onlyReads_running fun _ => ?_
    exact onlyReads_bind (onlyReads_modify fun s => rfl) fun _ => onlyReads_handleOf

theorem onlyReads_loadFile {p : Path} : OnlyReads (loadFile p) := by
  refine onlyReads_bind onlyReads_get fun s => ?_
  refine onlyReads_bind (onlyReads_modify fun s => by split <;> rfl) fun _ => ?_
  split
  · exact onlyReads_failed
  split
  · exact onlyReads_failed
  dsimp only
  refine onlyReads_bind onlyReads_get fun s => ?_
  split
  · exact onlyReads_handleOf
  refine onlyReads_bind (onlyReads_modify fun s => rfl) fun _ => ?_
  split
  · exact onlyReads_launchFile
  · exact onlyReads_failed

theorem onlyReads_importInput {reload : Bool} {module : String} :
    OnlyReads (importInput reload module) := by
  unfold importInput
  split
  · exact onlyReads_failed
  refine onlyReads_bind onlyReads_get fun s => ?_
  refine onlyReads_bind onlyReads_running fun _ => ?_
  extract_lets finish
  split
  · exact onlyReads_bind onlyReads_running fun _ => onlyReads_handleOf
  · exact onlyReads_handleOf

theorem onlyReads_loadFiles {done places : List Place} : OnlyReads (loadFiles done places) := by
  induction places generalizing done with
  | nil => exact onlyReads_pure
  | cons p rest ih =>
    rw [loadFiles]
    split
    · exact ih
    · exact onlyReads_bind onlyReads_loadFile fun h => onlyReads_bind ih fun _ => onlyReads_pure

theorem onlyReads_loadFrom {reload : Bool} {done : List Place} {inputs : List String} :
    OnlyReads (loadFrom reload done inputs) := by
  induction inputs generalizing done with
  | nil => exact onlyReads_pure
  | cons input rest ih =>
    rw [loadFrom]
    refine onlyReads_bind onlyReads_get fun s => ?_
    dsimp only
    split
    · exact onlyReads_failed
    split
    · split
      · exact onlyReads_failed
      · exact onlyReads_bind onlyReads_loadFiles fun _ => onlyReads_bind ih fun _ => onlyReads_pure
    · exact onlyReads_bind onlyReads_importInput fun h => onlyReads_bind ih fun _ => onlyReads_pure

end Loading

namespace Command

/-! Rounds. -/

/-- The line that an event adds to the errors, if it is shown. -/
def noteOf (verbose : Bool) (e : Event) : String :=
  if verbose then "[tsgen] " ++ e.line ++ "\n" else if e.isWarning then e.message ++ "\n" else ""

/-- What events add to the errors. -/
def notesOf (verbose : Bool) (events : List Event) : String :=
  String.join (events.map (noteOf verbose))

/-- What reporting the end of a round raises, if it fails and its fault has no text. -/
def raisedBy : Except Fault String → Option Annotation.Fault
  | .ok _ => none
  | .error f =>
    match f.message with
    | .ok _ => none
    | .error cause => some cause

/-- The line that reports a round: one if it fails, and none otherwise. -/
def reportOf : Except Fault String → String
  | .ok _ => ""
  | .error f =>
    match f.message with
    | .ok text => "[tsgen] FAILED: " ++ text ++ "\n"
    | .error _ => ""

/-- What a round on a console ends in: the text that it writes, or why there is none. -/
def outcome (r : Request) (reload : Bool) (c : Console) : Except Fault String :=
  ((runOnce r reload).run.run c).1

/-! What the steps of a round leave. -/

section Steps

variable {α β : Type} {r : Request} {reload verbose : Bool} {p : Path} {c c' : Console}
  {text : String}

/-- A step that changes no file, prints nothing but notes of events among the errors, and does not
fail on account of a file to write. -/
structure Quiet (verbose : Bool) (m : Job α) : Prop where
  tree : ∀ c : Console, (m.run.run c).2.session.tree = c.session.tree
  notes : ∀ c : Console, ∃ events, (m.run.run c).2.err = c.err ++ notesOf verbose events
  fault : ∀ (c : Console) (f : FileFault), (m.run.run c).1 ≠ .error (.file f)

theorem notesOf_append (es fs : List Event) :
    notesOf verbose (es ++ fs) = notesOf verbose es ++ notesOf verbose fs := by
  rw [notesOf, List.map_append, String.join_append]
  rfl

theorem quiet_of_same {m : Job α} (htree : ∀ c, (m.run.run c).2.session.tree = c.session.tree)
    (herr : ∀ c, (m.run.run c).2.err = c.err)
    (hfault : ∀ c f, (m.run.run c).1 ≠ .error (.file f)) : Quiet verbose m where
  tree := htree
  notes c := ⟨[], by rw [herr, notesOf, List.map_nil, String.join_nil, String.append_empty]⟩
  fault := hfault

theorem quiet_pure {a : α} : Quiet verbose (pure a : Job α) :=
  quiet_of_same (fun _ => rfl) (fun _ => rfl) fun _ _ h => by cases h

theorem quiet_failed {f : Fault} (hf : ∀ g, f ≠ .file g) : Quiet verbose (Job.failed f : Job α) :=
  quiet_of_same (fun _ => rfl) (fun _ => rfl) fun _ g h => hf g (Except.error.inj h)

theorem quiet_get : Quiet verbose (get : Job Console) :=
  quiet_of_same (fun _ => rfl) (fun _ => rfl) fun _ _ h => by cases h

theorem quiet_lifted {ε : Type} {cause : ε → Fault} {x : Except ε α}
    (hcause : ∀ e g, cause e ≠ .file g) : Quiet verbose (Job.lifted cause x) := by
  cases x with
  | ok a => exact quiet_pure
  | error e => exact quiet_failed (hcause e)

theorem quiet_bind {m : Job α} {f : α → Job β} (hm : Quiet verbose m)
    (hf : ∀ a, Quiet verbose (f a)) : Quiet verbose (m >>= f) := by
  have hrun : ∀ c, (∃ e, (m.run.run c).1 = .error e ∧
        (m >>= f).run.run c = (.error e, (m.run.run c).2)) ∨
      ∃ a, (m >>= f).run.run c = (f a).run.run (m.run.run c).2 := by
    intro c
    rw [run_bind]
    rcases m.run.run c with ⟨e | a, c'⟩
    · exact .inl ⟨e, rfl, rfl⟩
    · exact .inr ⟨a, rfl⟩
  refine ⟨fun c => ?_, fun c => ?_, fun c g => ?_⟩
  · obtain ⟨e, -, h⟩ | ⟨a, h⟩ := hrun c <;> rw [h]
    · exact hm.tree c
    · exact ((hf a).tree _).trans (hm.tree c)
  · obtain ⟨events, herr⟩ := hm.notes c
    obtain ⟨e, -, h⟩ | ⟨a, h⟩ := hrun c <;> rw [h]
    · exact ⟨events, herr⟩
    · obtain ⟨events', herr'⟩ := (hf a).notes (m.run.run c).2
      exact ⟨events ++ events', by rw [herr', herr, notesOf_append, String.append_assoc]⟩
  · obtain ⟨e, he, h⟩ | ⟨a, h⟩ := hrun c <;> rw [h]
    · intro hg
      cases hg
      exact hm.fault c g he
    · exact (hf a).fault _ g

theorem run_loading (body : Loading α) (c : Console) :
    (Job.loading body).run.run c =
      ((body.run.run c.session).1.mapError Fault.input,
        { c with session := (body.run.run c.session).2 }) := by
  have hconsole : (get : Job Console).run.run c = (.ok c, c) := rfl
  unfold Job.loading
  rw [run_bind, hconsole]
  rcases hbody : body.run.run c.session with ⟨e | a, s⟩
  · simp only [hbody, run_bind]
    rfl
  · simp only [hbody, run_bind]
    rfl

theorem quiet_loading {body : Loading α} (hbody : body.OnlyReads) :
    Quiet verbose (Job.loading body) := by
  refine quiet_of_same (fun c => ?_) (fun c => ?_) fun c f => ?_
  · rw [run_loading]
    exact hbody c.session
  · rw [run_loading]
  · rw [run_loading]
    intro h
    rcases hrun : body.run.run c.session with ⟨e | a, s⟩ <;> rw [hrun] at h <;> cases h

theorem run_complain (s : String) (c : Console) :
    (Job.complain s).run c = ((), { c with err := c.err ++ (s ++ "\n") }) := by
  rw [← String.append_assoc]
  rfl

theorem quiet_report (e : Event) : Quiet verbose (liftM (Job.report verbose e) : Job Unit) := by
  have hnotes : notesOf verbose [e] = noteOf verbose e := by
    rw [notesOf, List.map_singleton, String.join_cons, String.join_nil, String.append_empty]
  have hreport : ∀ c, (Job.report verbose e).run c =
      ((), { c with err := c.err ++ noteOf verbose e }) := by
    intro c
    unfold Job.report noteOf
    split
    · exact run_complain _ c
    · split
      · exact run_complain _ c
      · rw [String.append_empty]
        rfl
  have hrun : ∀ c, (liftM (Job.report verbose e) : Job Unit).run.run c =
      (.ok (), { c with err := c.err ++ noteOf verbose e }) := by
    intro c
    change (Except.ok ((Job.report verbose e).run c).1, ((Job.report verbose e).run c).2) = _
    rw [hreport]
  refine ⟨fun c => ?_, fun c => ⟨[e], ?_⟩, fun c f => ?_⟩ <;> rw [hrun]
  · rw [hnotes]
  · exact fun h => by cases h

theorem quiet_reports (events : List Event) :
    Quiet verbose (events.forM fun e => (liftM (Job.report verbose e) : Job Unit)) := by
  induction events with
  | nil => exact quiet_pure
  | cons e events ih => exact quiet_bind (quiet_report e) fun _ => ih

theorem quiet_generate (roots : List Annotation.Value) :
    Quiet r.arguments.verbose (generate r roots) := by
  unfold generate
  refine quiet_bind quiet_get fun c => ?_
  refine quiet_bind (quiet_lifted fun _ _ => Fault.noConfusion) fun options => ?_
  split
  · exact quiet_failed fun _ => Fault.noConfusion
  · exact quiet_bind (quiet_reports _) fun _ => quiet_lifted fun _ _ => Fault.noConfusion

theorem quiet_produce : Quiet r.arguments.verbose (produce r reload) := by
  refine quiet_bind (quiet_loading Loading.onlyReads_loadFrom) fun modules => ?_
  refine quiet_bind quiet_get fun c => ?_
  refine quiet_bind (quiet_lifted fun _ _ => Fault.noConfusion) fun roots => ?_
  split
  · exact quiet_failed fun _ => Fault.noConfusion
  · exact quiet_generate roots

theorem run_pure {ε σ : Type} (a : α) (c : σ) :
    (pure a : ExceptT ε (StateM σ) α).run.run c = (.ok a, c) := rfl

/-- The console with other files. -/
def Console.withTree (c : Console) (t : FileTree) : Console :=
  { c with session := { c.session with tree := t } }

theorem run_noteWritten (t : FileTree) (p : Path) (text : String) (c : Console) :
    ∃ places, (noteWritten t p text).run c = ((), { c with written := places }) := by
  unfold noteWritten
  extract_lets isSame
  change ∃ places, ((), if isSame = true then c else _) = _
  split
  · exact ⟨c.written, rfl⟩
  · exact ⟨c.written ++ [t.resolve p], rfl⟩

theorem run_store (p : Path) (text : String) (c : Console) : (store p text).run.run c =
    match c.session.tree.makeFolders p.parent with
    | .error f => (.error (.file f), c)
    | .ok t =>
      match t.writeText p text with
      | .error f => (.error (.file f), c.withTree t)
      | .ok written => (.ok (), ((noteWritten t p text).run (c.withTree written)).2) := by
  have hget : (get : Job Console).run.run c = (.ok c, c) := rfl
  have hset : ∀ (t : FileTree) (c : Console), (liftM (setTree t) : Job Unit).run.run c =
      (.ok (), c.withTree t) := fun _ _ => rfl
  unfold store
  rw [run_bind, hget]
  dsimp only
  rw [run_bind]
  cases c.session.tree.makeFolders p.parent with
  | error f => rfl
  | ok t =>
    dsimp only [Job.lifted]
    rw [run_pure]
    dsimp only
    rw [run_bind, hset]
    dsimp only
    rw [run_bind]
    cases t.writeText p text with
    | error f => rfl
    | ok written =>
      dsimp only
      rw [run_pure]
      dsimp only
      rw [run_bind, hset]
      rfl

/-- Storing a text adds nothing to the errors, and either leaves the text at the path or leaves the
file that there was. -/
theorem store_leaves (p : Path) (text : String) (c : Console) : ∃ c' : Console, c'.err = c.err ∧
    ((store p text).run.run c = (.ok (), c') ∧
        c'.session.tree.held p = some (Text.encode text) ∨
      ∃ f : FileFault, (store p text).run.run c = (.error (.file f), c') ∧
        (∀ points, f ≠ .unencodable points) ∧
        c'.session.tree.held p = c.session.tree.held p) := by
  rw [run_store]
  cases hfolders : c.session.tree.makeFolders p.parent with
  | error f =>
    exact ⟨c, rfl, .inr ⟨f, rfl, FileTree.ne_unencodable_of_makeFolders hfolders, rfl⟩⟩
  | ok t =>
    dsimp only
    cases hwritten : t.writeText p text with
    | error f =>
      have hafter : t.held p = none := FileTree.held_of_writeText_error hwritten
      have hbefore : c.session.tree.held p = none := by
        rw [Option.eq_none_iff_forall_ne_some]
        intro bs hbs
        rw [(FileTree.extends_makeFolders hfolders).held hbs] at hafter
        cases hafter
      exact ⟨c.withTree t, rfl, .inr ⟨f, rfl, FileTree.ne_unencodable_of_writeText hwritten,
        hafter.trans hbefore.symm⟩⟩
    | ok written =>
      obtain ⟨places, hnote⟩ := run_noteWritten t p text (c.withTree written)
      dsimp only
      rw [hnote]
      exact ⟨{ c.withTree written with written := places }, rfl,
        .inl ⟨rfl, FileTree.held_writeText hwritten⟩⟩

/-- What is held at the output after a round, given what was held before: its text, nothing at all
if the text has surrogates, and otherwise what was held. -/
def heldAfter (before : Option (List UInt8)) : Except Fault String → Option (List UInt8)
  | .ok text => some (Text.encode text)
  | .error (.file (.unencodable _)) => some []
  | .error _ => before

theorem heldAfter_error {before : Option (List UInt8)} {f : Fault}
    (h : ∀ points, f ≠ .file (.unencodable points)) : heldAfter before (.error f) = before := by
  cases f with
  | file g =>
    cases g with
    | unencodable points => exact (h points rfl).elim
    | _ => rfl
  | _ => rfl

/-- Writing a text out leaves it at the path, or what was there; a text with surrogates leaves an
empty file. -/
theorem emit_leaves (p : Path) (text : List Text.Point) (c : Console) :
    ((emit (some p) text).run.run c).2.err = c.err ∧
      ((emit (some p) text).run.run c).2.session.tree.held p =
        heldAfter (c.session.tree.held p) ((emit (some p) text).run.run c).1 := by
  have hfile : ∀ {f : FileFault}, (∀ points, f ≠ .unencodable points) →
      ∀ points, Fault.file f ≠ .file (.unencodable points) :=
    fun hf points h => hf points (Fault.file.inj h)
  cases hs : Text.ofPoints? text with
  | some s =>
    have hemit : emit (some p) text = (do
        store p s
        Job.print ("[tsgen] OK -> " ++ p.text ++ "\n")
        return s : Job String) := by
      unfold emit
      rw [hs]
    obtain ⟨c', herr, ⟨hstore, hheld⟩ | ⟨f, hstore, hf, hheld⟩⟩ := store_leaves p s c <;>
      rw [hemit, run_bind, hstore]
    · exact ⟨herr, hheld⟩
    · exact ⟨herr, hheld.trans (heldAfter_error (hfile hf)).symm⟩
  | none =>
    have hemit : emit (some p) text = (do
        store p ""
        Job.failed (.file (.unencodable text)) : Job String) := by
      unfold emit
      rw [hs]
    obtain ⟨c', herr, ⟨hstore, hheld⟩ | ⟨f, hstore, hf, hheld⟩⟩ := store_leaves p "" c <;>
      rw [hemit, run_bind, hstore]
    · exact ⟨herr, hheld.trans (congrArg some (by simp [Text.encode]))⟩
    · exact ⟨herr, hheld.trans (heldAfter_error (hfile hf)).symm⟩

theorem runOnce_leaves (hp : r.target = some p) (c : Console) :
    ((runOnce r reload).run.run c).2.session.tree.held p =
        heldAfter (c.session.tree.held p) (outcome r reload c) ∧
      ∃ events, ((runOnce r reload).run.run c).2.err =
        c.err ++ notesOf r.arguments.verbose events := by
  have hquiet : Quiet r.arguments.verbose (produce r reload) := quiet_produce
  have htree := hquiet.tree c
  obtain ⟨events, herr⟩ := hquiet.notes c
  have hfault := hquiet.fault c
  unfold outcome runOnce
  rw [hp, run_bind]
  rcases hproduce : (produce r reload).run.run c with ⟨f | text, c'⟩ <;>
    rw [hproduce] at htree herr hfault
  · have hf : ∀ points, f ≠ .file (.unencodable points) :=
      fun points h => hfault _ (congrArg Except.error h)
    refine ⟨?_, events, herr⟩
    exact (congrArg (FileTree.held · p) htree).trans (heldAfter_error hf).symm
  · dsimp only at htree herr ⊢
    obtain ⟨herr', hheld⟩ := emit_leaves p text c'
    rw [htree] at hheld
    exact ⟨hheld, events, herr'.trans herr⟩

/-- What is left to a watch of a round: nothing, or what reporting it raises. -/
def verdict : Option Annotation.Fault → Except Fault Unit
  | none => .ok ()
  | some cause => .error (.input (.definition cause))

theorem run_runRound (r : Request) (reload : Bool) (c : Console) :
    (runRound r reload).run.run c = (verdict (raisedBy (outcome r reload c)),
      { ((runOnce r reload).run.run c).2 with
        err := ((runOnce r reload).run.run c).2.err ++ reportOf (outcome r reload c) }) := by
  have hcatch : (runRound r reload).run.run c =
      match (runOnce r reload).run.run c with
      | (.ok _, c') => (.ok (), c')
      | (.error f, c') => (reportFailure f).run.run c' := by
    have hrun : (do let _ ← runOnce r reload : Job Unit).run.run c =
        match (runOnce r reload).run.run c with
        | (.ok _, c') => (.ok (), c')
        | (.error f, c') => (.error f, c') := by
      rw [run_bind]
      rcases (runOnce r reload).run.run c with ⟨f | text, c'⟩ <;> rfl
    unfold runRound
    rw [run_tryCatch, hrun]
    rcases (runOnce r reload).run.run c with ⟨f | text, c'⟩ <;> rfl
  rw [hcatch]
  unfold outcome
  rcases (runOnce r reload).run.run c with ⟨f | text, c'⟩
  · unfold reportFailure raisedBy reportOf
    dsimp only
    cases f.message with
    | ok text =>
      dsimp only
      have hcomplain := run_complain ("[tsgen] FAILED: " ++ text) c'
      rw [String.append_assoc] at hcomplain
      exact congrArg (fun x => (Except.ok x.1, x.2)) hcomplain
    | error cause =>
      rw [String.append_empty]
      rfl
  · change _ = (_, { c' with err := c'.err ++ "" })
    rw [String.append_empty]
    rfl

theorem runRound_leaves (reload : Bool) (hp : r.target = some p) (c : Console) :
    ((runRound r reload).run.run c).2.session.tree.held p =
        heldAfter (c.session.tree.held p) (outcome r reload c) ∧
      ∃ events, ((runRound r reload).run.run c).2.err =
        c.err ++ (notesOf r.arguments.verbose events ++ reportOf (outcome r reload c)) := by
  obtain ⟨hheld, events, herr⟩ := runOnce_leaves hp c
  rw [run_runRound]
  exact ⟨hheld, events, by rw [herr, String.append_assoc]⟩

end Steps

/-! Watching. -/

/-- The console after a batch. -/
def Batch.after (b : Batch) (r : Request) (c : Console) : Console := ((change r b).run.run c).2

/-- The console when the round of a batch begins. -/
def Batch.announced (b : Batch) (c : Console) : Console :=
  { c.withTree (b.edit c.session.tree) with
    out := c.out ++ ("\n[tsgen] Change detected:\n" ++
      listed ((distinct b.watched).mergeSort fun x y => decide (x ≤ y))) }

/-- The consoles when the rounds of batches begin. A batch without a watched path starts none, and
after a round whose fault cannot be reported there is none. -/
def rounds (r : Request) : List Batch → Console → List Console
  | [], _ => []
  | b :: rest, c =>
    if b.watched.isEmpty then rounds r rest (b.after r c)
    else b.announced c ::
      if (raisedBy (outcome r true (b.announced c))).isNone then rounds r rest (b.after r c) else []

/-- What the rounds of batches end in. -/
def outcomes (r : Request) (batches : List Batch) (c : Console) : List (Except Fault String) :=
  (rounds r batches c).map (outcome r true)

/-- The files change, but not the one at the output. -/
def Spared (r : Request) (p : Path) : List Batch → Console → Prop
  | [], _ => True
  | b :: rest, c =>
    (b.edit c.session.tree).held p = c.session.tree.held p ∧
      (((change r b).run.run c).1 = .ok () → Spared r p rest (b.after r c))

/-- What rounds add to the errors: for each of them notes of events, and a line if it fails. -/
def reported (verbose : Bool) (notes : List (List Event)) (rounds : List (Except Fault String)) :
    String :=
  String.join (List.zipWith (fun events o => notesOf verbose events ++ reportOf o) notes rounds)

/-- The text of the latest round that gave one. -/
def latestText (rounds : List (Except Fault String)) : Option String :=
  (rounds.filterMap Except.toOption).getLast?

section Watching

variable {r : Request} {p : Path} {c : Console} {b : Batch} {batches : List Batch}
  {verbose : Bool} {ends : List (Except Fault String)} {notes : List (List Event)}

theorem reported_nil : reported verbose [] ends = "" := by
  rw [reported, List.zipWith_nil_left, String.join_nil]

theorem reported_cons (events : List Event) (o : Except Fault String) :
    reported verbose (events :: notes) (o :: ends) =
      notesOf verbose events ++ reportOf o ++ reported verbose notes ends := by
  rw [reported, List.zipWith_cons_cons, String.join_cons]
  rfl

/-- A failing round leaves what is held, so the latest text is what is held in the end, unless a
text could not be encoded. -/
theorem foldl_heldAfter (before : Option (List UInt8))
    (h : ∀ points, .error (.file (.unencodable points)) ∉ ends) :
    ends.foldl heldAfter before = ((latestText ends).map Text.encode).or before := by
  induction ends generalizing before with
  | nil => rfl
  | cons o ends ih =>
    rw [List.foldl_cons, ih _ fun points hmem => h points (List.mem_cons_of_mem _ hmem)]
    cases o with
    | error f =>
      have hf : ∀ points, f ≠ .file (.unencodable points) :=
        fun points hf => h points (hf ▸ List.mem_cons_self ..)
      rw [heldAfter_error hf]
      rfl
    | ok text =>
      have hcons : latestText (.ok text :: ends) = some ((latestText ends).getD text) :=
        List.getLast?_cons
      rw [hcons]
      cases latestText ends <;> rfl

theorem run_change (b : Batch) (r : Request) (c : Console) : (change r b).run.run c =
    if b.watched.isEmpty then (.ok (), c.withTree (b.edit c.session.tree))
    else (runRound r true).run.run (b.announced c) := by
  unfold Batch.announced change
  cases b.watched with
  | nil => rfl
  | cons path paths => rfl

theorem after_unwatched (h : b.watched.isEmpty = true) :
    b.after r c = c.withTree (b.edit c.session.tree) := by
  rw [Batch.after, run_change, if_pos h]

theorem after_watched (h : ¬ b.watched.isEmpty = true) :
    b.after r c = ((runRound r true).run.run (b.announced c)).2 := by
  rw [Batch.after, run_change, if_neg h]

theorem watch_cons (r : Request) (b : Batch) (batches : List Batch) (c : Console) :
    (watch r (b :: batches)).run.run c =
      match (change r b).run.run c with
      | (.ok (), c') => (watch r batches).run.run c'
      | (.error f, c') => (.error f, c') := by
  change (change r b >>= fun _ => watch r batches).run.run c = _
  rw [run_bind]
  rcases (change r b).run.run c with ⟨f | u, c'⟩ <;> rfl

/-- Where a watch that is to hold a path leads: its rounds say what the path holds and what is
reported, and whether all of them are over. -/
structure Leaves (r : Request) (p : Path) (c : Console) (ends : List (Except Fault String))
    (ended : Except Fault Unit × Console) : Prop where
  verdict : ended.1 = verdict (ends.findSome? raisedBy)
  held : ended.2.session.tree.held p = ends.foldl heldAfter (c.session.tree.held p)
  err : ∃ notes, notes.length = ends.length ∧
    ended.2.err = c.err ++ reported r.arguments.verbose notes ends

/-- A round, and then whatever follows on it unless its fault cannot be reported. -/
theorem Leaves.round (hp : r.target = some p) (reload : Bool)
    (next : Console → Except Fault Unit × Console)
    (hnext : raisedBy (outcome r reload c) = none →
      Leaves r p ((runRound r reload).run.run c).2 ends (next ((runRound r reload).run.run c).2)) :
    Leaves r p c (outcome r reload c ::
        if (raisedBy (outcome r reload c)).isNone then ends else [])
      (match (runRound r reload).run.run c with
      | (.ok (), c') => next c'
      | (.error f, c') => (.error f, c')) := by
  obtain ⟨hheld, events, herr⟩ := runRound_leaves reload hp c
  revert hnext hheld herr
  rw [run_runRound]
  cases hraised : raisedBy (outcome r reload c) with
  | some cause =>
    intro hnext hheld herr
    refine ⟨by rw [List.findSome?_cons, hraised]; rfl, hheld, [events], rfl, ?_⟩
    rw [reported_cons, reported_nil, String.append_empty]
    exact herr
  | none =>
    intro hnext hheld herr
    obtain ⟨hverdict, hheld', notes, hlength, herr'⟩ := hnext rfl
    refine ⟨?_, ?_, events :: notes, congrArg (· + 1) hlength, ?_⟩
    · rw [List.findSome?_cons, hraised]
      exact hverdict
    · rw [List.foldl_cons, ← hheld]
      exact hheld'
    · rw [reported_cons, ← String.append_assoc, ← herr]
      exact herr'

/-- Over batches of changes the output file holds what their rounds leave, one after another, and
each round is reported once, up to a round whose fault cannot be reported. -/
theorem watch_leaves (hp : r.target = some p) (hspared : Spared r p batches c) :
    Leaves r p c (outcomes r batches c) ((watch r batches).run.run c) := by
  unfold outcomes
  induction batches generalizing c with
  | nil => exact ⟨rfl, rfl, [], rfl, String.append_empty.symm⟩
  | cons b batches ih =>
    obtain ⟨hb, hrest⟩ := hspared
    rw [run_change] at hrest
    rw [watch_cons, run_change, rounds]
    by_cases hempty : b.watched.isEmpty = true
    · rw [if_pos hempty] at hrest
      rw [if_pos hempty, if_pos hempty]
      obtain ⟨hverdict, hheld, herr⟩ := ih (hrest rfl)
      rw [after_unwatched hempty] at hverdict hheld herr ⊢
      exact ⟨hverdict, hheld.trans (congrArg (List.foldl heldAfter · _) hb), herr⟩
    · rw [if_neg hempty] at hrest
      rw [if_neg hempty, if_neg hempty, List.map_cons, apply_ite (List.map (outcome r true)),
        List.map_nil, after_watched hempty]
      rw [after_watched hempty] at hrest
      have hround := Leaves.round (c := b.announced c) hp true
        (fun c' => (watch r batches).run.run c') fun hnone => ih (hrest ?_)
      · obtain ⟨hverdict, hheld, herr⟩ := hround
        exact ⟨hverdict, hheld.trans (congrArg (List.foldl heldAfter · _) hb), herr⟩
      · rw [run_runRound, hnone]
        rfl

/-- As long as every fault can be reported, each batch with a watched path starts one round. -/
theorem length_rounds (h : (outcomes r batches c).findSome? raisedBy = none) :
    (rounds r batches c).length = (batches.filter fun b => !b.watched.isEmpty).length := by
  unfold outcomes at h
  induction batches generalizing c with
  | nil => rfl
  | cons b batches ih =>
    rw [rounds] at h ⊢
    by_cases hempty : b.watched.isEmpty = true
    · rw [if_pos hempty] at h ⊢
      rw [List.filter_cons_of_neg (by simpa using hempty)]
      exact ih h
    · rw [if_neg hempty, List.map_cons, List.findSome?_cons] at h
      rw [if_neg hempty, List.filter_cons_of_pos (by simpa using hempty), List.length_cons,
        List.length_cons]
      cases hraised : raisedBy (outcome r true (b.announced c)) with
      | some cause =>
        rw [hraised] at h
        cases h
      | none =>
        rw [hraised] at h
        exact congrArg (· + 1) (ih h)

end Watching

/-! Whole runs of the command. -/

/-- The console when the first round begins: the inputs have been loaded once. -/
def Console.loaded (r : Request) (c : Console) : Console :=
  ((Job.loading (Loading.loadInputs false r.arguments.inputs)).run.run c).2

/-- The console when the command waits for changes: a first round has been run. -/
def Console.begun (r : Request) (c : Console) : Console := ((beginWatching r).run.run c).2

/-- A command that watches is past its initial load: it has its configuration, the inputs have been
loaded, and some of them have folders. -/
structure PastLoad (templates : String) (environment : List (String × String)) (a : Arguments)
    (t : FileTree) (r : Request) : Prop where
  watches : a.watch = true
  configured : ∃ configuration, configure t environment a = .ok configuration ∧
    r = ⟨a, configuration, templates⟩
  loaded : ∃ modules s, (Loading.loadInputs false a.inputs).run.run (Session.fresh t) =
    (.ok modules, s) ∧ (watchedFolders s modules).isEmpty = false

/-- What all rounds of a watch end in: the first one, and those of batches. -/
def allOutcomes (r : Request) (batches : List Batch) (t : FileTree) : List (Except Fault String) :=
  let first := outcome r false ((Console.fresh t).loaded r)
  first :: if (raisedBy first).isNone then outcomes r batches ((Console.fresh t).begun r) else []

/-- How a command ends of which something was raised, if anything. -/
def endOf : Option Annotation.Fault → Ending
  | none => .exited 0
  | some cause =>
    match cause.message with
    | .ok _ => .exited 1
    | .error inner => .raised inner

/-- The last line among the errors of such a command. -/
def lastLine : Option Annotation.Fault → String
  | none => ""
  | some cause =>
    match cause.message with
    | .ok text => "tsgen: " ++ text ++ "\n"
    | .error _ => ""

section Runs

variable {templates : String} {environment : List (String × String)} {a : Arguments} {t : FileTree}
  {r : Request} {p : Path} {c c' : Console} {batches : List Batch}

theorem loaded_leaves (r : Request) (c : Console) :
    (c.loaded r).session.tree = c.session.tree ∧ (c.loaded r).err = c.err := by
  unfold Console.loaded
  rw [run_loading]
  exact ⟨Loading.onlyReads_loadFrom c.session, rfl⟩

/-- What comes of a step on the console before it. -/
theorem run_get_bind {α : Type} (f : Console → Job α) (c : Console) :
    (do let c ← get; f c : Job α).run.run c = (f c).run.run c := rfl

/-- Past the load, a first round decides whether the command waits for changes. -/
theorem run_beginWatching {modules : List InputModule}
    (hload : ((Loading.loadInputs false r.arguments.inputs).run.run c.session).1 = .ok modules)
    (hfolders : (watchedFolders (c.loaded r).session modules).isEmpty = false) :
    ∃ printed, (beginWatching r).run.run c = match (runRound r false).run.run (c.loaded r) with
      | (.ok (), c') => (.ok true, { c' with out := c'.out ++ printed })
      | (.error f, c') => (.error f, c') := by
  have hloaded : (Job.loading (Loading.loadInputs false r.arguments.inputs)).run.run c =
      (.ok modules, c.loaded r) := by
    unfold Console.loaded
    rw [run_loading, hload]
    rfl
  refine ⟨"[tsgen] Watching:\n" ++ listed (watchedFolders (c.loaded r).session modules), ?_⟩
  unfold beginWatching
  rw [run_bind, hloaded]
  dsimp only
  rw [run_get_bind, hfolders, if_neg Bool.false_ne_true, run_bind]
  rcases (runRound r false).run.run (c.loaded r) with ⟨f | u, c'⟩ <;> rfl

/-- What loading must have given to a command that goes on watching. -/
theorem loads_of_beginWatching (h : (beginWatching r).run.run c = (.ok true, c')) :
    ∃ modules, ((Loading.loadInputs false r.arguments.inputs).run.run c.session).1 = .ok modules ∧
      (watchedFolders (c.loaded r).session modules).isEmpty = false := by
  unfold beginWatching at h
  rw [run_bind] at h
  unfold Console.loaded
  rw [run_loading] at h ⊢
  rcases hload : (Loading.loadInputs false r.arguments.inputs).run.run c.session with ⟨f | modules, s⟩
  · rw [hload] at h
    cases h
  · rw [hload] at h
    refine ⟨modules, rfl, ?_⟩
    dsimp only [Except.mapError] at h
    rw [run_get_bind] at h
    cases hfolders : (watchedFolders s modules).isEmpty with
    | false => rfl
    | true =>
      dsimp only at h
      rw [hfolders, if_pos rfl] at h
      cases h

/-- A command that goes on watching has begun to watch, as its arguments ask for. -/
theorem watching_of_start
    (h : (start templates environment a).run (Console.fresh t) = (.watching r, c)) :
    PastLoad templates environment a t r ∧
      (beginWatching r).run.run (Console.fresh t) = (.ok true, c) := by
  unfold start at h
  extract_lets body at h
  rw [StateT.run_bind] at h
  rcases hbody : body.run.run (Console.fresh t) with ⟨f | started, c₁⟩
  · rw [hbody] at h
    cases h
  rw [hbody] at h
  cases h
  unfold body at hbody
  rw [run_get_bind] at hbody
  cases hconfigure : configure (Console.fresh t).session.tree environment a with
  | error f =>
    rw [hconfigure] at hbody
    cases hbody
  | ok configuration =>
    rw [hconfigure, Job.lifted, pure_bind] at hbody
    split at hbody
    · next hwatch =>
      rw [run_bind] at hbody
      rcases hbegin : (beginWatching ⟨a, configuration, templates⟩).run.run (Console.fresh t) with
        ⟨f | goesOn, c₂⟩
      · rw [hbegin] at hbody
        cases hbody
      · rw [hbegin] at hbody
        cases goesOn with
        | false => cases hbody
        | true =>
          cases hbody
          obtain ⟨modules, hload, hfolders⟩ := loads_of_beginWatching hbegin
          refine ⟨⟨hwatch, ⟨configuration, hconfigure, rfl⟩, modules, _, Prod.ext hload rfl, ?_⟩,
            hbegin⟩
          unfold Console.loaded at hfolders
          rwa [run_loading] at hfolders
    · -- a run that does not watch ends with an exit code
      rw [run_bind] at hbody
      rcases hrun : (runOnce ⟨a, configuration, templates⟩ false).run.run (Console.fresh t) with
        ⟨f | u, c₂⟩
      · rw [hrun] at hbody
        cases hbody
      · rw [hrun] at hbody
        cases hbody

/-- How a command ends that has watched, and the console that it leaves. -/
def conclude (ended : Except Fault Unit × Console) : Ending × Console :=
  match ended with
  | (.ok (), c) => (.exited 0, c)
  | (.error f, c) => (finish f).run c

theorem PastLoad.arguments_eq (h : PastLoad templates environment a t r) : r.arguments = a := by
  obtain ⟨configuration, -, rfl⟩ := h.configured
  rfl

theorem PastLoad.target_eq (h : PastLoad templates environment a t r) :
    r.target = (a.out.filter (· != "")).map Path.ofText := by
  rw [Request.target, h.arguments_eq]

theorem PastLoad.run_beginWatching (h : PastLoad templates environment a t r) : ∃ printed,
    (beginWatching r).run.run (Console.fresh t) =
      match (runRound r false).run.run ((Console.fresh t).loaded r) with
      | (.ok (), c') => (.ok true, { c' with out := c'.out ++ printed })
      | (.error f, c') => (.error f, c') := by
  obtain ⟨modules, s, hload, hfolders⟩ := h.loaded
  rw [← h.arguments_eq] at hload
  have hsession : ((Console.fresh t).loaded r).session = s := by
    unfold Console.loaded
    rw [run_loading]
    exact congrArg Prod.snd hload
  exact Command.run_beginWatching (congrArg Prod.fst hload) (hsession ▸ hfolders)

theorem begun_of_start
    (h : (start templates environment a).run (Console.fresh t) = (.watching r, c)) :
    ∃ printed,
      c = { ((runRound r false).run.run ((Console.fresh t).loaded r)).2 with out := printed } := by
  obtain ⟨hload, hwatching⟩ := watching_of_start h
  obtain ⟨printed, hbegin⟩ := hload.run_beginWatching
  rw [hwatching] at hbegin
  rcases hround : (runRound r false).run.run ((Console.fresh t).loaded r) with ⟨f | u, c'⟩ <;>
    rw [hround] at hbegin <;> cases hbegin
  exact ⟨_, rfl⟩

/-- A command that goes on watching ends as its watch does. -/
theorem run_of_start {c' : Console}
    (hstart : (start templates environment a).run c = (.watching r, c')) (batches : List Batch) :
    (run templates environment a batches).run c = conclude ((watch r batches).run.run c') := by
  unfold run
  rw [StateT.run_bind, hstart]
  change StateT.run ((watch r batches).run >>= _) c' = _
  rw [StateT.run_bind]
  rcases (watch r batches).run.run c' with ⟨f | u, c''⟩ <;> rfl

/-- Past the load a command runs a first round, and watches if that does not end it. -/
theorem PastLoad.run_eq (h : PastLoad templates environment a t r) (batches : List Batch) : ∃ printed,
    (run templates environment a batches).run (Console.fresh t) =
        conclude (match (runRound r false).run.run ((Console.fresh t).loaded r) with
          | (.ok (), c') => (watch r batches).run.run { c' with out := c'.out ++ printed }
          | (.error f, c') => (.error f, c')) ∧
      (raisedBy (outcome r false ((Console.fresh t).loaded r)) = none →
        (Console.fresh t).begun r =
          { ((runRound r false).run.run ((Console.fresh t).loaded r)).2 with
            out := ((runRound r false).run.run ((Console.fresh t).loaded r)).2.out ++ printed }) := by
  obtain ⟨printed, hbegin⟩ := h.run_beginWatching
  have hwatch := h.watches
  obtain ⟨configuration, hconfigure, rfl⟩ := h.configured
  have hbody : (do
      let c ← get
      let configuration ← Job.lifted id (configure c.session.tree environment a)
      let r : Request := ⟨a, configuration, templates⟩
      if a.watch then
        if ← beginWatching r then return Started.watching r else return .ended (.exited 2)
      else
        let _ ← runOnce r false
        return .ended (.exited 0) : Job Started).run.run (Console.fresh t) =
      (beginWatching ⟨a, configuration, templates⟩ >>= fun begun =>
        if begun then return .watching ⟨a, configuration, templates⟩
        else return .ended (.exited 2) : Job Started).run.run (Console.fresh t) := by
    rw [run_get_bind]
    change (Job.lifted id (configure t environment a) >>= _ : Job Started).run.run _ = _
    rw [hconfigure, Job.lifted, pure_bind]
    dsimp only
    rw [hwatch, if_pos rfl]
  refine ⟨printed, ?_, fun hnone => ?_⟩
  · rcases hround : (runRound ⟨a, configuration, templates⟩ false).run.run
      ((Console.fresh t).loaded ⟨a, configuration, templates⟩) with ⟨f | u, c'⟩
    · unfold run start
      rw [StateT.run_bind, StateT.run_bind]
      dsimp only
      rw [hbody, run_bind, hbegin, hround]
      rfl
    · refine run_of_start ?_ batches
      unfold start
      rw [StateT.run_bind]
      dsimp only
      rw [hbody, run_bind, hbegin, hround]
      rfl
  · unfold Console.begun
    rw [hbegin, run_runRound, hnone]
    rfl

theorem run_finish (f : Fault) (c : Console) : (finish f).run c =
    match f.message with
    | .ok text => (.exited 1, { c with err := c.err ++ ("tsgen: " ++ text ++ "\n") })
    | .error cause => (.raised cause, c) := by
  unfold finish
  cases f.message with
  | error cause => rfl
  | ok text =>
    dsimp only
    rw [StateT.run_bind, run_complain]
    rfl

theorem conclude_verdict {ended : Except Fault Unit × Console} {raised : Option Annotation.Fault}
    (h : ended.1 = verdict raised) : (conclude ended).1 = endOf raised ∧
      (conclude ended).2.session = ended.2.session ∧
      (conclude ended).2.err = ended.2.err ++ lastLine raised := by
  obtain ⟨result, c⟩ := ended
  obtain rfl : result = verdict raised := h
  cases raised with
  | none => exact ⟨rfl, rfl, String.append_empty.symm⟩
  | some cause =>
    have hconclude : conclude (verdict (some cause), c) =
      (finish (.input (.definition cause))).run c := rfl
    have hmessage : (Fault.input (.definition cause)).message = cause.message := rfl
    rw [hconclude, run_finish, hmessage]
    unfold endOf lastLine
    dsimp only
    cases cause.message with
    | ok text => exact ⟨rfl, rfl, rfl⟩
    | error inner => exact ⟨rfl, rfl, String.append_empty.symm⟩

/-- As long as every fault can be reported, there is a first round and one for each batch with a
watched path. -/
theorem length_allOutcomes (h : (allOutcomes r batches t).findSome? raisedBy = none) :
    (allOutcomes r batches t).length =
      1 + (batches.filter fun b => !b.watched.isEmpty).length := by
  unfold allOutcomes at h ⊢
  dsimp only at h ⊢
  rw [List.findSome?_cons] at h
  cases hraised : raisedBy (outcome r false ((Console.fresh t).loaded r)) with
  | some cause =>
    rw [hraised] at h
    cases h
  | none =>
    rw [hraised] at h
    rw [Option.isNone_none, if_pos rfl, List.length_cons, Nat.add_comm, outcomes, List.length_map,
      length_rounds h]

/-- What the rounds of a watch leave. -/
theorem PastLoad.leaves (h : PastLoad templates environment a t r) (hp : r.target = some p)
    (hspared : raisedBy (outcome r false ((Console.fresh t).loaded r)) = none →
      Spared r p batches ((Console.fresh t).begun r)) :
    ∃ ended, (run templates environment a batches).run (Console.fresh t) = conclude ended ∧
      Leaves r p ((Console.fresh t).loaded r) (allOutcomes r batches t) ended := by
  obtain ⟨printed, hrun, hbegun⟩ := h.run_eq batches
  refine ⟨_, hrun, Leaves.round hp false _ fun hnone => ?_⟩
  have hleaves := watch_leaves hp (hspared hnone)
  rw [hbegun hnone] at hleaves ⊢
  exact ⟨hleaves.verdict, hleaves.held, hleaves.err⟩

/-- Watching goes on through every round whose failure can be reported. The output file holds what
the rounds leave, one after another: the text of the latest round that gave one, or what it held
before the run, unless a text could not be encoded. Each round that fails is reported on one line,
and if all of them can be reported, every batch with a watched path has its round and the command
ends well. -/
theorem output_of_latest_round (h : PastLoad templates environment a t r) (hp : r.target = some p)
    (hspared : raisedBy (outcome r false ((Console.fresh t).loaded r)) = none →
      Spared r p batches ((Console.fresh t).begun r)) :
    let ends := allOutcomes r batches t
    let raised := ends.findSome? raisedBy
    let ended := (run templates environment a batches).run (Console.fresh t)
    ended.1 = endOf raised ∧
      ended.2.session.tree.held p = ends.foldl heldAfter (t.held p) ∧
      (∃ notes, notes.length = ends.length ∧
        ended.2.err = reported r.arguments.verbose notes ends ++ lastLine raised) ∧
      (raised = none → ended.1 = .exited 0 ∧
        ends.length = 1 + (batches.filter fun b => !b.watched.isEmpty).length) ∧
      ((∀ text, .error (.file (.unencodable text)) ∉ ends) →
        ended.2.session.tree.held p = ((latestText ends).map Text.encode).or (t.held p)) := by
  obtain ⟨ended, hrun, hleaves⟩ := h.leaves hp hspared
  obtain ⟨hcode, hsession, hline⟩ := conclude_verdict hleaves.verdict
  obtain ⟨htree, herr⟩ := loaded_leaves r (Console.fresh t)
  have hempty : ((Console.fresh t).loaded r).err = "" := herr
  obtain ⟨notes, hlength, hnotes⟩ := hleaves.err
  have hheld := hleaves.held
  rw [htree] at hheld
  rw [hempty, String.empty_append] at hnotes
  intro ends raised ended'
  have hended : ended' = conclude ended := hrun
  rw [hended, hsession, hline, hcode, hheld, hnotes]
  refine ⟨rfl, rfl, ⟨notes, hlength, rfl⟩, fun hnone => ⟨congrArg endOf hnone, ?_⟩,
    foldl_heldAfter _⟩
  exact length_allOutcomes hnone

end Runs

/-! A watch over one file: it is empty at first, then it is broken, then it has a class. -/

/-- The arguments of the watch. -/
def watchedFile : Arguments :=
  { Arguments.none with inputs := ["models.py"], out := some "types.ts", watch := true }

/-- A file with some definitions in it. -/
def fileOf (definitions : List Definition.ModuleItem) (t : FileTree) : FileTree :=
  t.write ["work", "models.py"] (.definitions ⟨false, definitions⟩)

/-- The files at the beginning. -/
def emptyFile : FileTree := fileOf [] (.empty ["work"])

/-- A module that raises what everybody knows. -/
def brokenItem : Definition.ModuleItem := .raising (.raised (.named "ValueError") "broken")

/-- A class of points. -/
def pointClass : Definition.ModuleItem := .cls (.mk "Point" [] [] "" [.field "x" "int" none])

/-- A change of the file. -/
def fileChange (definitions : List Definition.ModuleItem) : Batch :=
  ⟨fileOf definitions, ["/work/models.py"]⟩

/-- The changes while the command watches. -/
def fileChanges : List Batch := [fileChange [brokenItem], fileChange [pointClass]]

/-- What a command that goes on watching is asked for. -/
def Started.request? : Started → Option Request
  | .ended _ => none
  | .watching r => some r

theorem Started.eq_watching {s : Started × Console} (h : s.1.request?.isSome) :
    s = (.watching (s.1.request?.get h), s.2) := by
  obtain ⟨started, c⟩ := s
  cases started with
  | ended ending => cases h
  | watching r => rfl

/-- How a command begins. -/
def begunOn (a : Arguments) (t : FileTree) : Started × Console :=
  (start "templates" [] a).run (Console.fresh t)

/-- A command that goes on watching is past its load. -/
theorem watching_of_request? {a : Arguments} {t : FileTree} {r : Request}
    (h : (begunOn a t).1.request? = some r) :
    (start "templates" [] a).run (Console.fresh t) = (.watching r, (begunOn a t).2) := by
  have hwatches : (begunOn a t).1.request?.isSome = true := by rw [h]; rfl
  have hstart := Started.eq_watching hwatches
  rwa [Option.get_of_eq_some hwatches h] at hstart

/-- Is the file at the output spared by the changes? -/
def spares (r : Request) (p : Path) : List Batch → Console → Bool
  | [], _ => true
  | b :: rest, c =>
    (b.edit c.session.tree).held p == c.session.tree.held p && spares r p rest (b.after r c)

theorem spared_of_spares {r : Request} {p : Path} {batches : List Batch} {c : Console}
    (h : spares r p batches c = true) : Spared r p batches c := by
  induction batches generalizing c with
  | nil => trivial
  | cons b batches ih =>
    obtain ⟨hb, hrest⟩ := Bool.and_eq_true_iff.mp h
    exact ⟨eq_of_beq hb, fun _ => ih hrest⟩

/-- A watch whose output file is spared by the changes, with something else that holds of it. -/
theorem watch_of_any {a : Arguments} {t : FileTree} {p : Path} (batches : List Batch)
    (check : Request → Bool)
    (h : (begunOn a t).1.request?.any (fun r => spares r p batches (begunOn a t).2 && check r)) :
    ∃ r, PastLoad "templates" [] a t r ∧ Spared r p batches ((Console.fresh t).begun r) ∧
      check r = true := by
  obtain ⟨r, hr, hspares⟩ := (Option.any_eq_true ..).mp h
  obtain ⟨hspares, hcheck⟩ := Bool.and_eq_true_iff.mp hspares
  obtain ⟨hload, hbegin⟩ := watching_of_start (watching_of_request? hr)
  have hbegun : (Console.fresh t).begun r = (begunOn a t).2 := congrArg Prod.snd hbegin
  exact ⟨r, hload, hbegun ▸ spared_of_spares hspares, hcheck⟩

theorem output_of_latest_round_models :
    ∃ r p, PastLoad "templates" [] watchedFile emptyFile r ∧ r.target = some p ∧
      (raisedBy (outcome r false ((Console.fresh emptyFile).loaded r)) = none →
        Spared r p fileChanges ((Console.fresh emptyFile).begun r)) ∧
      let ends := allOutcomes r fileChanges emptyFile
      let raised := ends.findSome? raisedBy
      let ended := (run "templates" [] watchedFile fileChanges).run (Console.fresh emptyFile)
      ended.1 = endOf raised ∧
        ended.2.session.tree.held p = ends.foldl heldAfter (emptyFile.held p) ∧
        (∃ notes, notes.length = ends.length ∧
          ended.2.err = reported r.arguments.verbose notes ends ++ lastLine raised) ∧
        (raised = none → ended.1 = .exited 0 ∧
          ends.length = 1 + (fileChanges.filter fun b => !b.watched.isEmpty).length) ∧
        ((∀ text, .error (.file (.unencodable text)) ∉ ends) → ended.2.session.tree.held p =
          ((latestText ends).map Text.encode).or (emptyFile.held p)) := by
  obtain ⟨r, hload, hspared, -⟩ := watch_of_any (p := ⟨"", ["types.ts"]⟩) fileChanges
    (fun _ => true)
    (show (begunOn watchedFile emptyFile).1.request?.any _ from by decide +kernel)
  have htarget : r.target = some ⟨"", ["types.ts"]⟩ := hload.target_eq
  exact ⟨r, _, hload, htarget, fun _ => hspared,
    output_of_latest_round hload htarget fun _ => hspared⟩

/-! Two ways in which a failing round does harm. -/

/-- A module that raises an exception whose text raises another one. -/
def muteItem : Definition.ModuleItem :=
  .raising (.untold ⟨"Mute", false⟩ (.raised (.named "ValueError") "no text"))

/-- The same watch, with the file imported as a module. -/
def moduleWatch : Arguments := { watchedFile with inputs := ["models"] }

/-- A second class. -/
def itemClass : Definition.ModuleItem := .cls (.mk "Item" [] [] "" [])

/-- The same watch, with a template of its own. -/
def surrogateWatch : Arguments := { watchedFile with template := some "t" }

/-- A template that writes a surrogate for more than one type. -/
def surrogateFiles : FileTree :=
  fileOf [pointClass] ((FileTree.empty ["work"]).write ["work", "t"]
    (.bytes (Text.encode (slot "'\\ud83d' if types|length > 1 else 'x'"))))

/-- Does a watch end in a fault that is none of the command's own? -/
def endsRaised (t : FileTree) (batches : List Batch) (r : Request) : Bool :=
  ((allOutcomes r batches t).findSome? raisedBy).any fun cause => cause.message.isOk

/-- Does a watch leave an empty file behind a text? -/
def leavesEmpty (t : FileTree) (batches : List Batch) (r : Request) : Bool :=
  (allOutcomes r batches t).foldl heldAfter none == some [] &&
    latestText (allOutcomes r batches t) == some "x"

/-- A module that raises an exception without a text ends the watch, and a text with surrogates
empties the output file. -/
theorem output_not_always_kept :
    (¬ ∀ (a : Arguments) (t : FileTree) (r : Request) (p : Path) (batches : List Batch),
      PastLoad "templates" [] a t r → r.target = some p →
      Spared r p batches ((Console.fresh t).begun r) →
      ((run "templates" [] a batches).run (Console.fresh t)).1 = .exited 0) ∧
    ¬ ∀ (a : Arguments) (t : FileTree) (r : Request) (p : Path) (batches : List Batch),
      PastLoad "templates" [] a t r → r.target = some p →
      Spared r p batches ((Console.fresh t).begun r) →
      ((run "templates" [] a batches).run (Console.fresh t)).2.session.tree.held p =
        ((latestText (allOutcomes r batches t)).map Text.encode).or (t.held p) := by
  constructor
  · intro hall
    obtain ⟨r, hload, hspared, hraised⟩ := watch_of_any (p := ⟨"", ["types.ts"]⟩)
      [fileChange [muteItem]] (endsRaised emptyFile [fileChange [muteItem]])
      (show (begunOn moduleWatch emptyFile).1.request?.any _ from by decide +kernel)
    have htarget : r.target = some ⟨"", ["types.ts"]⟩ := hload.target_eq
    have hwell := hall _ _ _ _ _ hload htarget hspared
    obtain ⟨ended, hrun, hleaves⟩ := hload.leaves htarget fun _ => hspared
    rw [hrun, (conclude_verdict hleaves.verdict).1] at hwell
    obtain ⟨cause, hcause, hmessage⟩ := (Option.any_eq_true ..).mp hraised
    rw [hcause, endOf] at hwell
    cases hm : cause.message with
    | ok text =>
      rw [hm] at hwell
      exact absurd (Ending.exited.inj hwell) (by decide)
    | error inner =>
      rw [hm] at hwell
      cases hwell
  · intro hall
    obtain ⟨r, hload, hspared, hempty⟩ := watch_of_any (p := ⟨"", ["types.ts"]⟩)
      [fileChange [pointClass, itemClass]]
      (leavesEmpty surrogateFiles [fileChange [pointClass, itemClass]])
      (show (begunOn surrogateWatch surrogateFiles).1.request?.any _ from by decide +kernel)
    have htarget : r.target = some ⟨"", ["types.ts"]⟩ := hload.target_eq
    have hkept := hall _ _ _ _ _ hload htarget hspared
    obtain ⟨hheld, htext⟩ := Bool.and_eq_true_iff.mp hempty
    obtain ⟨ended, hrun, hleaves⟩ := hload.leaves htarget fun _ => hspared
    have hbefore : ((Console.fresh surrogateFiles).loaded r).session.tree.held
        ⟨"", ["types.ts"]⟩ = none := by
      rw [(loaded_leaves r (Console.fresh surrogateFiles)).1]
      decide
    rw [hrun, (conclude_verdict hleaves.verdict).2.1, hleaves.held, hbefore, eq_of_beq hheld,
      eq_of_beq htext] at hkept
    exact absurd hkept (by decide +kernel)

end Command

end TypeProjection
