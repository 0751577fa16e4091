import TypeProjection.Proofs.ListedFiles

/-!
# How inputs fail

What fails while a file is found, loaded or run is reported as a failure of the inputs, and so is a
name that a module does not have. A module that is imported by its name is another matter: only what
is not found is reported this way, and every other fault of its body passes through as it is. A
report quotes the text of the fault, so of a fault without a text what is raised instead passes
through. Besides that, only an input that is too long to be looked up is not reported.
-/

namespace TypeProjection

open Annotation
open Definition (Run run_bind run_bind_ok)

namespace Loading

variable {α β : Type} {s s' : Session} {p : Place} {module : String} {f : InputFault}
  {reload : Bool} {inputs : List String} {items : List LoadItem} {modules : List InputModule}

/-- The roots that inputs give. -/
def rootsOf (reload : Bool) (inputs : List String) : Loading (List Value) := do
  let modules ← loadInputs reload inputs
  match InputModule.allRoots (← get).world modules with
  | .ok roots => return roots
  | .error f => failed f

/-- What something raises that is asked for: a file that is run, because it is not kept in its
version, or a module whose name asks for a package around it, or which is run for the first time or
once more. -/
inductive Raises (reload : Bool) (s : Session) : LoadItem → Fault → Prop
  | body {p : Place} {module : String} {content : FileContent} {v : Nat} {g : Fault} {w : World} :
    moduleNameOf? ⟨"/", p⟩ = some module → s.tree.node? p = some (.file content v) →
    ((s.world.keptVersion module).isSome &&
      s.world.keptVersion module == versionAt s.tree p) = false →
    (SearchPath.launch (fileModule p module) (SearchPath.execute
      ((s.cleared p module).searchPath.importFrom module) module content)).run.run
        (s.cleared p module).world = (.error g, w) →
    Raises reload s (.file p) g
  | relative {module : String} {requested : List String} : module.toList.head? = some '.' →
    Raises reload s (.module module requested)
      (.wrongType ("the 'package' argument is required to perform a relative import for " ++
        Text.display module))
  | imported {module : String} {requested : List String} {g : Fault} {w : World} :
    module.toList.head? ≠ some '.' →
    (s.searchPath.importNamed (s.searchPath.fuel module) module).run.run s.world = (.error g, w) →
    Raises reload s (.module module requested) g
  | reloaded {module : String} {requested : List String} {g : Fault} {w w' : World} :
    module.toList.head? ≠ some '.' → reload = true →
    (s.searchPath.importNamed (s.searchPath.fuel module) module).run.run s.world = (.ok (), w) →
    (s.searchPath.reload module).run.run w = (.error g, w') →
    Raises reload s (.module module requested) g

/-- What is raised instead of the text of a fault, if it has none. -/
def instead? (g : Fault) : Option Fault :=
  match g.message with
  | .ok _ => none
  | .error cause => some cause

/-- What is left of a fault that is not reported as one of inputs. A file reports every fault that
has a text, and a module only what is not found. -/
def passed? : LoadItem → Fault → Option Fault
  | .file _, g => instead? g
  | .module _ _, g => if g.isImportFault then instead? g else some g

/-- What inputs fail of, if it is not reported as a failure of inputs: with all before it loaded,
something raises a fault of which something is left, or an input cannot be looked up. -/
inductive Escapes (reload : Bool) (s : Session) (inputs : List String) : InputFault → Prop
  | raised {before after : List LoadItem} {item : LoadItem} {modules : List InputModule}
      {s₁ : Session} {g cause : Fault} :
    s.tree.items inputs = before ++ item :: after →
    (before.mapM (load reload)).run.run s = (.ok modules, s₁) →
    Raises reload s₁ item g → passed? item g = some cause →
    Escapes reload s inputs (.definition cause)
  | overlong {modules : List InputModule} {s₁ : Session} {path : String} :
    ((s.tree.items inputs).mapM (load reload)).run.run s = (.ok modules, s₁) →
    s.tree.firstRefusal? inputs = some (.file (.overlong path)) →
    Escapes reload s inputs (.file (.overlong path))

/-! Steps that fail. -/

/-- A step fails where it starts, or behind its first part. -/
theorem bind_error_iff {m : Loading α} {k : α → Loading β} :
    ((m >>= k).run.run s).1 = .error f ↔ (m.run.run s).1 = .error f ∨
      ∃ a s', m.run.run s = (.ok a, s') ∧ ((k a).run.run s').1 = .error f := by
  rw [run_bind]
  rcases m.run.run s with ⟨e | a, s'⟩
  · dsimp only
    constructor
    · intro h
      cases h
      exact .inl rfl
    · rintro (h | ⟨a, s₁, h, -⟩)
      · cases h
        rfl
      · cases h
  · constructor
    · exact fun h => .inr ⟨a, s', rfl, h⟩
    · rintro (h | ⟨a₁, s₁, h, hk⟩)
      · cases h
      · cases h
        exact hk

/-- Steps that are taken one after another fail at the first that fails. -/
theorem mapM_error_iff {k : α → Loading β} {xs : List α} : ((xs.mapM k).run.run s).1 = .error f ↔
    ∃ before x after bs s', xs = before ++ x :: after ∧
      (before.mapM k).run.run s = (.ok bs, s') ∧ ((k x).run.run s').1 = .error f := by
  induction xs generalizing s with
  | nil =>
    rw [List.mapM_nil]
    constructor
    · intro h
      cases h
    · rintro ⟨before, x, after, -, -, h, -⟩
      simp at h
  | cons y ys ih =>
    rw [List.mapM_cons, bind_error_iff]
    constructor
    · rintro (h | ⟨b, s₁, hy, h⟩)
      · exact ⟨[], y, ys, [], s, rfl, rfl, h⟩
      · rcases bind_error_iff.mp h with h | ⟨bs, s₂, -, h⟩
        · obtain ⟨before, x, after, bs, s', rfl, hbefore, hx⟩ := ih.mp h
          refine ⟨y :: before, x, after, b :: bs, s', rfl, ?_, hx⟩
          rw [List.mapM_cons, run_bind, hy]
          dsimp only
          rw [run_bind, hbefore]
          rfl
        · cases h
    · rintro ⟨before, x, after, bs, s', hxs, hbefore, hx⟩
      cases before with
      | nil =>
        cases hxs
        cases hbefore
        exact .inl hx
      | cons z before =>
        cases hxs
        rw [List.mapM_cons] at hbefore
        obtain ⟨b, s₁, hy, hrest⟩ := run_bind_ok.mp hbefore
        obtain ⟨bs, s₂, hbefore, hlast⟩ := run_bind_ok.mp hrest
        cases hlast
        exact .inr ⟨b, s₁, hy, bind_error_iff.mpr
          (.inl (ih.mpr ⟨before, x, after, bs, s', rfl, hbefore, hx⟩))⟩

theorem handleOf_error : ¬ ((handleOf module).run.run s).1 = .error f := by
  have hget : (get : Loading Session).run.run s = (.ok s, s) := rfl
  unfold handleOf
  rw [run_bind, hget]
  dsimp only
  split <;> exact nofun

theorem running_error {cause : Fault → InputFault} {body : Run α}
    (h : ((running cause body).run.run s).1 = .error f) :
    ∃ g w, body.run.run s.world = (.error g, w) ∧ f = cause g := by
  rw [run_running] at h
  rcases hbody : body.run.run s.world with ⟨g | a, w⟩
  · rw [hbody] at h
    cases h
    exact ⟨g, w, rfl, rfl⟩
  · rw [hbody] at h
    cases h

/-! What is asked for. -/

/-- A fault that is quoted is reported as one of inputs, unless it has no text. -/
theorem quoting_iff {report : String → InputFault} {g : Fault}
    (hreport : ∀ text, (report text).isInputError = true) :
    (f = quoting report g ∧ f.isInputError = false) ↔
      ∃ cause, instead? g = some cause ∧ f = .definition cause := by
  unfold quoting instead?
  cases g.message with
  | ok text =>
    constructor
    · rintro ⟨rfl, h⟩
      rw [hreport] at h
      cases h
    · rintro ⟨cause, h, -⟩
      cases h
  | error cause =>
    constructor
    · rintro ⟨rfl, -⟩
      exact ⟨cause, rfl, rfl⟩
    · rintro ⟨cause, h, rfl⟩
      cases h
      exact ⟨rfl, rfl⟩

theorem bodyFault_iff {path : Path} {g : Fault} :
    (f = bodyFault path g ∧ f.isInputError = false) ↔
      ∃ cause, instead? g = some cause ∧ f = .definition cause :=
  quoting_iff fun _ => rfl

theorem importFault_iff {g : Fault} {requested : List String} :
    (f = importFault module g ∧ f.isInputError = false) ↔
      ∃ cause, passed? (.module module requested) g = some cause ∧ f = .definition cause := by
  unfold importFault passed?
  dsimp only
  split
  · exact quoting_iff fun _ => rfl
  · constructor
    · rintro ⟨rfl, -⟩
      exact ⟨g, rfl, rfl⟩
    · rintro ⟨cause, h, rfl⟩
      cases h
      exact ⟨rfl, rfl⟩

/-- A listed file fails as an input does, or of what its body raises. -/
theorem loadFile_error_iff (ht : s.tree.Proper) (hp : Lists s.tree inputs p module) :
    (((loadFile ⟨"/", p⟩).run.run s).1 = .error f ∧ f.isInputError = false) ↔
      ∃ g cause, Raises reload s (.file p) g ∧ instead? g = some cause ∧ f = .definition cause := by
  have htree : (s.cleared p module).tree = s.tree := Session.searching_tree
  rw [run_loadFile ht hp]
  change ((if _ then _ else (launchFile _ _ _ _).run.run (s.cleared p module)).1 = _ ∧ _) ↔ _
  constructor
  · rintro ⟨h, hf⟩
    split at h
    · exact absurd h handleOf_error
    · next hstale =>
      rw [run_launchFile, htree] at h
      split at h
      · next content v hnode =>
        rcases hrun : (SearchPath.launch (fileModule p module) (SearchPath.execute
          ((s.cleared p module).searchPath.importFrom module) module content)).run.run
          (s.cleared p module).world with ⟨g | u, w⟩
        · rw [hrun] at h
          cases h
          obtain ⟨cause, hcause, hpassed⟩ := bodyFault_iff.mp ⟨rfl, hf⟩
          exact ⟨g, cause, .body hp.named hnode (Bool.eq_false_iff.mpr hstale) hrun, hcause, hpassed⟩
        · rw [hrun] at h
          exact absurd h handleOf_error
      · cases h
        cases hf
  · rintro ⟨g, cause, hraises, hcause, rfl⟩
    obtain ⟨hreport, hf⟩ := bodyFault_iff.mpr ⟨cause, hcause, rfl⟩
    refine ⟨?_, hf⟩
    cases hraises with
    | body hname hnode hstale hrun =>
      cases hp.named.symm.trans hname
      rw [hstale, if_neg Bool.false_ne_true, run_launchFile, htree, hnode]
      dsimp only
      rw [hrun, hreport]

/-- Importing a module fails as an input does, or of what it raises. -/
theorem importInput_error_iff {requested : List String} :
    (((importInput reload module).run.run s).1 = .error f ∧ f.isInputError = false) ↔
      ∃ g cause, Raises reload s (.module module requested) g ∧
        passed? (.module module requested) g = some cause ∧ f = .definition cause := by
  have hget : (get : Loading Session).run.run s = (.ok s, s) := rfl
  have hescapes : ∀ {g}, (f = importFault module g ∧ f.isInputError = false) ↔
      ∃ cause, passed? (.module module requested) g = some cause ∧ f = .definition cause :=
    importFault_iff
  unfold importInput
  by_cases hrelative : module.toList.head? = some '.'
  · rw [if_pos (by rw [hrelative]; rfl)]
    constructor
    · rintro ⟨h, -⟩
      cases h
      exact ⟨_, _, .relative hrelative, rfl, rfl⟩
    · rintro ⟨g, cause, hg, hcause, rfl⟩
      cases hg with
      | relative =>
        cases hcause
        exact ⟨rfl, rfl⟩
      | imported h => exact absurd hrelative h
      | reloaded h => exact absurd hrelative h
  rw [if_neg (by simpa using hrelative), run_bind, hget]
  dsimp only
  rw [bind_error_iff]
  constructor
  · rintro ⟨h | ⟨⟨⟩, s₁, himport, h⟩, hf⟩
    · obtain ⟨g, w, hrun, hg⟩ := running_error h
      obtain ⟨cause, hcause⟩ := hescapes.mp ⟨hg, hf⟩
      exact ⟨g, cause, .imported hrelative hrun, hcause⟩
    · obtain ⟨w, hrun, rfl⟩ := running_ok.mp himport
      split at h
      · next hreload =>
        rcases bind_error_iff.mp h with h | ⟨-, s₂, -, h⟩
        · obtain ⟨g, w', hrerun, hg⟩ := running_error h
          obtain ⟨cause, hcause⟩ := hescapes.mp ⟨hg, hf⟩
          exact ⟨g, cause, .reloaded hrelative hreload hrun hrerun, hcause⟩
        · exact absurd h handleOf_error
      · exact absurd h handleOf_error
  · rintro ⟨g, cause, hg, hcause⟩
    obtain ⟨hreport, hf⟩ := hescapes.mpr ⟨cause, hcause⟩
    refine ⟨?_, hf⟩
    cases hg with
    | relative h => exact absurd h hrelative
    | imported _ hrun =>
      left
      rw [run_running, hrun, hreport]
      rfl
    | reloaded _ hreload hrun hrerun =>
      refine .inr ⟨(), _, running_ok.mpr ⟨_, hrun, rfl⟩, ?_⟩
      rw [if_pos hreload]
      refine bind_error_iff.mpr (.inl ?_)
      rw [run_running]
      dsimp only
      rw [hrerun, hreport]
      rfl

/-! Roots. -/

theorem exists_of_mapM_error {ε : Type} {g : α → Except ε β} {xs : List α} {e : ε}
    (h : xs.mapM g = .error e) : ∃ x ∈ xs, g x = .error e := by
  induction xs with
  | nil => cases h
  | cons x xs ih =>
    rw [List.mapM_cons] at h
    cases hx : g x with
    | error e' =>
      rw [hx] at h
      cases h
      exact ⟨x, List.mem_cons_self .., hx⟩
    | ok b =>
      rw [hx] at h
      cases hxs : xs.mapM g with
      | error e' =>
        rw [hxs] at h
        cases h
        obtain ⟨y, hy, hgy⟩ := ih hxs
        exact ⟨y, List.mem_cons_of_mem x hy, hgy⟩
      | ok bs =>
        rw [hxs] at h
        cases h

/-- Modules that are loaded lack names at most. -/
theorem allRoots_error {w : World} (h : InputModule.allRoots w modules = .error f) :
    f.isInputError = true := by
  unfold InputModule.allRoots at h
  cases hroots : modules.mapM (InputModule.roots w) with
  | ok all =>
    rw [hroots] at h
    cases h
  | error e =>
    rw [hroots] at h
    cases h
    obtain ⟨m, -, hm⟩ := exists_of_mapM_error hroots
    unfold InputModule.roots at hm
    split at hm
    · cases hm
    · obtain ⟨n, -, hn⟩ := exists_of_mapM_error hm
      split at hn
      · cases hn
      · cases hn
        rfl

/-- The files that inputs ask for have names. -/
theorem lists_of_mem_items {t : FileTree} (ht : t.Proper) (h : .file p ∈ t.items inputs) :
    ∃ module, Lists t inputs p module := by
  have hplace : p ∈ LoadItem.places (t.items inputs) := List.mem_filterMap.mpr ⟨_, h, rfl⟩
  obtain ⟨input, hcollect⟩ := FileTree.collect_of_listed hplace
  obtain ⟨module, hmodule⟩ :=
    Option.isSome_iff_exists.mp (FileTree.place?_of_mem_collect ht hcollect).2
  exact ⟨module, hplace, hmodule⟩

/-- What is asked for fails as an input does, or of what it raises. -/
theorem load_error_iff {item : LoadItem} (ht : s.tree.Proper) (hitem : item ∈ s.tree.items inputs) :
    (((load reload item).run.run s).1 = .error f ∧ f.isInputError = false) ↔
      ∃ g cause, Raises reload s item g ∧ passed? item g = some cause ∧ f = .definition cause := by
  have hlast : ∀ {m : Loading ModuleHandle} {names : List String},
      ((do return ⟨← m, names⟩ : Loading InputModule).run.run s).1 = .error f ↔
        (m.run.run s).1 = .error f := by
    intro m names
    rw [bind_error_iff]
    constructor
    · rintro (h | ⟨a, s', -, h⟩)
      · exact h
      · cases h
    · exact .inl
  cases item with
  | file p =>
    obtain ⟨module, hp⟩ := lists_of_mem_items ht hitem
    rw [load, hlast]
    exact loadFile_error_iff ht hp
  | module module requested =>
    rw [load, hlast]
    exact importInput_error_iff

/-- An input that is refused is known for that, unless it cannot be looked up. -/
theorem refusal_iff {t : FileTree} (h : t.firstRefusal? inputs = some f) :
    f.isInputError = false ↔ ∃ path, f = .file (.overlong path) := by
  obtain ⟨input, -, hrefusal⟩ := List.exists_of_findSome?_eq_some h
  unfold FileTree.refusal? at hrefusal
  split at hrefusal
  · cases hrefusal
    exact ⟨fun _ => ⟨_, rfl⟩, fun _ => rfl⟩
  · split at hrefusal
    · cases hrefusal
      constructor
      · intro hf
        cases hf
      · rintro ⟨path, hf⟩
        cases hf
    · cases hrefusal

/-- What fails without being reported as an input. -/
theorem loadInputs_error_iff (ht : s.tree.Proper) :
    (((loadInputs reload inputs).run.run s).1 = .error f ∧ f.isInputError = false) ↔
      Escapes reload s inputs f := by
  rw [run_loadInputs, loadItems, bind_error_iff, mapM_error_iff]
  have hitems : ∀ {before after : List LoadItem} {item : LoadItem} {modules : List InputModule}
      {s₁ : Session}, s.tree.items inputs = before ++ item :: after →
      (before.mapM (load reload)).run.run s = (.ok modules, s₁) →
      s₁.tree = s.tree ∧ item ∈ s₁.tree.items inputs := by
    intro before after item modules s₁ hitems hbefore
    have htree : s₁.tree = s.tree := by
      have h := onlyReads_loads reload before s
      rwa [hbefore] at h
    refine ⟨htree, ?_⟩
    rw [htree, hitems]
    exact List.mem_append_right _ (List.mem_cons_self ..)
  constructor
  · rintro ⟨⟨before, item, after, modules, s₁, hsplit, hbefore, hitem⟩ | ⟨modules, s₁, hloads, h⟩, hf⟩
    · obtain ⟨htree, hmem⟩ := hitems hsplit hbefore
      obtain ⟨g, cause, hg, hcause, rfl⟩ := (load_error_iff (htree ▸ ht) hmem).mp ⟨hitem, hf⟩
      exact .raised hsplit hbefore hg hcause
    · split at h
      · cases h
      · next refusal hrefusal =>
        cases h
        obtain ⟨path, rfl⟩ := (refusal_iff hrefusal).mp hf
        exact .overlong hloads hrefusal
  · rintro (⟨hsplit, hbefore, hg, hcause⟩ | ⟨hloads, hrefusal⟩)
    · obtain ⟨htree, hmem⟩ := hitems hsplit hbefore
      obtain ⟨hitem, hf⟩ := (load_error_iff (htree ▸ ht) hmem).mpr ⟨_, _, hg, hcause, rfl⟩
      exact ⟨.inl ⟨_, _, _, _, _, hsplit, hbefore, hitem⟩, hf⟩
    · refine ⟨.inr ⟨_, _, hloads, ?_⟩, rfl⟩
      rw [hrefusal]
      rfl

theorem rootsOf_error_iff : ((rootsOf reload inputs).run.run s).1 = .error f ∧
    f.isInputError = false ↔
      ((loadInputs reload inputs).run.run s).1 = .error f ∧ f.isInputError = false := by
  unfold rootsOf
  rw [bind_error_iff]
  constructor
  · rintro ⟨h | ⟨modules, s₁, -, h⟩, hf⟩
    · exact ⟨h, hf⟩
    · have hget : (get : Loading Session).run.run s₁ = (.ok s₁, s₁) := rfl
      rw [run_bind, hget] at h
      dsimp only at h
      split at h
      · cases h
      · next e hroots =>
        cases h
        rw [allRoots_error hroots] at hf
        cases hf
  · exact fun ⟨h, hf⟩ => ⟨.inl h, hf⟩

/-- Inputs that can be looked up are not refused for another reason. -/
theorem not_overlong_refusal {t : FileTree} {path : String}
    (h : ∀ input ∈ inputs, t.isOverlong input = false) :
    t.firstRefusal? inputs ≠ some (.file (.overlong path)) := by
  intro hfirst
  obtain ⟨input, hinput, hrefusal⟩ := List.exists_of_findSome?_eq_some hfirst
  rw [FileTree.refusal?, h input hinput, if_neg Bool.false_ne_true] at hrefusal
  split at hrefusal
  · cases hrefusal
  · cases hrefusal

/-- A folder with one source file, whose body raises a fault. -/
def raisingFile (g : Fault) : FileTree :=
  (FileTree.empty ["work"]).write ["work", "m.py"] (.definitions ⟨false, [.raising g]⟩)

/-- A fault that everybody knows. -/
def boom : Fault := .raised (.named "ValueError") "boom"

/-- A fault whose text raises another one. -/
def mute : Fault := .untold ⟨"Mute", false⟩ boom

/-- The cause of a failure. -/
def causeOf {α : Type} : Except InputFault α → Option InputFault
  | .ok _ => none
  | .error f => some f

theorem error_of_causeOf {α : Type} {x : Except InputFault α} (h : causeOf x = some f) :
    x = .error f := by
  obtain e | a := x
  · cases h
    rfl
  · cases h

theorem proper_raisingFile (g : Fault) : (raisingFile g).Proper := by
  have hentries : (raisingFile g).entries =
    [(["work", "m.py"], .file (.definitions ⟨false, [.raising g]⟩) 0)] := rfl
  have hname : ∀ n ∈ (["work", "m.py"] : List String), Path.IsName n := by
    intro n hn
    simp only [List.mem_cons, List.not_mem_nil, or_false] at hn
    rcases hn with rfl | rfl
    · exact ⟨by decide, by decide, by decide, by decide⟩
    · exact ⟨by decide, by decide, by decide, by decide⟩
  refine ⟨?_, ?_, ?_⟩
  · change ".." ∉ ["work"]
    decide
  · rw [hentries]
    exact List.forall_mem_singleton.mpr hname
  · rw [hentries]
    refine List.forall_mem_singleton.mpr fun q hq hne => ?_
    rcases List.prefix_concat_iff.mp (show q <+: ["work"] ++ ["m.py"] from hq) with h | h
    · exact absurd h hne
    · exact FileTree.isFolderAt_of_prefix_home h

end Loading

end TypeProjection
