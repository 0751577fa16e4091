import Mathlib.Data.List.Nodup
import Mathlib.Data.List.Pairwise
import TypeProjection.Proofs.AnnotationKeys
import TypeProjection.Proofs.LoadedFiles
import TypeProjection.Proofs.Population

/-!
# One declaration for a class statement

Where no file is run twice and no two modules have one name, loading makes one class for a class
statement, whatever the files import from each other. A run declares a class once, so it declares a
class statement once: an importing file refers to the very class that its own file declares.
-/

namespace TypeProjection

open Annotation
open Definition (Traces run_bind run_bind_ok)

namespace Annotation.World

variable {t : FileTree} {w w' : World} {made : List ClassInfo} {paths : List String}

/-- The first module with a name. -/
def named? (w : World) (module : String) : Option LoadedModule :=
  w.modules.toList.find? fun m => m.name == module

/-- The class statement that made a class: a file, and the position of the statement in it. The
classes of a module come from the statements of its file in order. -/
def statement? (w : World) (i : Nat) : Option (String × Nat) :=
  w.classes[i]?.bind fun info =>
    ((w.named? info.module).bind LoadedModule.file).map fun f =>
      (f, (pathsIn info.module (w.classes.toList.take i)).length)

/-- No file has been run twice, and no two modules have one name. -/
structure RunOnce (w : World) : Prop where
  names : (w.modules.toList.map LoadedModule.name).Nodup
  files : (w.modules.toList.filterMap LoadedModule.file).Nodup

/-- Every class is one of a module with a file, and the classes of a module are those of the first
class statements of its file. -/
structure Accounted (t : FileTree) (w : World) : Prop where
  modules : ∀ c ∈ w.classes.toList, ∃ m ∈ w.modules.toList, m.name = c.module ∧
    m.file.isSome = true
  paths : ∀ m ∈ w.modules.toList, ∀ f, m.file = some f →
    ∃ p, f = SearchPath.absolute p ∧ pathsIn m.name w.classes.toList <+: t.classStatements p

theorem accounted_initial (t : FileTree) : initial.Accounted t where
  modules _ h := (List.not_mem_nil h).elim
  paths _ h := (List.not_mem_nil h).elim

theorem of_named? {module : String} {m : LoadedModule} (h : w.named? module = some m) :
    m ∈ w.modules.toList ∧ m.name = module := by
  unfold named? at h
  have hname := List.find?_some h
  exact ⟨List.mem_of_find?_eq_some h, eq_of_beq hname⟩

theorem named?_of_mem (hnames : (w.modules.toList.map LoadedModule.name).Nodup) {m : LoadedModule}
    (hm : m ∈ w.modules.toList) : w.named? m.name = some m := by
  cases h : w.named? m.name with
  | none => exact absurd (beq_self_eq_true m.name) (List.find?_eq_none.mp h m hm)
  | some n =>
    obtain ⟨hn, hname⟩ := of_named? h
    rw [List.inj_on_of_nodup_map hnames hn hm hname]

/-- Running something outside of all modules keeps accounts, as long as names are given once. -/
theorem Ran.accounted (h : w.Ran t none paths w' made)
    (hnames : (w'.modules.toList.map LoadedModule.name).Nodup) (hw : w.Accounted t) :
    w'.Accounted t where
  modules c hc := by
    rw [h.classes] at hc
    rcases List.mem_append.mp hc with hc | hc
    · obtain ⟨m, hm, hname, hfile⟩ := hw.modules c hc
      obtain ⟨i, hm⟩ := List.mem_iff_getElem?.mp hm
      obtain ⟨m', hm', hsame⟩ := h.modules i m (by simpa using hm)
      exact ⟨m', List.mem_of_getElem? (by simpa using hm'), hsame.name.trans hname, hsame.file ▸ hfile⟩
    · obtain ⟨-, i, m, -, hm, hname, hfile⟩ := h.others c hc (fun hmem => by cases hmem)
      exact ⟨m, List.mem_of_getElem? (by simpa using hm), hname, hfile⟩
  paths m' hm' f hf := by
    obtain ⟨i, hm'⟩ := List.mem_iff_getElem?.mp hm'
    have hm' : w'.modules[i]? = some m' := by simpa using hm'
    rw [h.classes, pathsIn_append]
    by_cases hlt : i < w.modules.size
    · -- an old module, which gets no more classes
      have hm := Array.getElem?_eq_getElem hlt
      obtain ⟨m₁, hm₁, hsame⟩ := h.modules i _ hm
      obtain rfl : m' = m₁ := Option.some.inj (hm'.symm.trans hm₁)
      obtain ⟨p, hp, hprefix⟩ := hw.paths _ (Array.getElem_mem_toList hlt) f (hsame.file.symm.trans hf)
      refine ⟨p, hp, ?_⟩
      have hnone : pathsIn m'.name made = [] := by
        refine pathsIn_eq_nil fun c hc hname => ?_
        obtain ⟨-, j, n, hj, hn, hnname, -⟩ := h.others c hc (fun hmem => by cases hmem)
        have hij := eq_of_nodup hnames hm' hn (hname.symm.trans hnname.symm)
        omega
      rw [hnone, List.append_nil, hsame.name]
      exact hprefix
    · -- a new module, which has no earlier classes
      obtain ⟨p, hp, hprefix⟩ := h.logged hnames i m' f (by omega) hm' hf
      have hnone : pathsIn m'.name w.classes.toList = [] := by
        refine pathsIn_eq_nil fun c hc hname => ?_
        obtain ⟨n, hn, hnname, -⟩ := hw.modules c hc
        obtain ⟨j, hn⟩ := List.mem_iff_getElem?.mp hn
        have hn : w.modules[j]? = some n := by simpa using hn
        obtain ⟨n', hn', hsame⟩ := h.modules j n hn
        have hij := eq_of_nodup hnames hm' hn' (hname.symm.trans (hsame.name.trans hnname).symm)
        have hjlt := (Array.getElem?_eq_some_iff.mp hn).1
        omega
      exact ⟨p, hp, by rw [hnone, List.nil_append]; exact hprefix⟩

/-- Accounts depend on the names and files of modules, and on the classes. -/
theorem Accounted.of_same (h : w.Accounted t) (hclasses : w'.classes = w.classes)
    (hmodules : w'.modules.toList.map (fun m => (m.name, m.file)) =
      w.modules.toList.map fun m => (m.name, m.file)) : w'.Accounted t where
  modules c hc := by
    rw [hclasses] at hc
    obtain ⟨m, hm, hname, hfile⟩ := h.modules c hc
    have hmem := List.mem_map_of_mem (f := fun m : LoadedModule => (m.name, m.file)) hm
    rw [← hmodules] at hmem
    obtain ⟨m', hm', hsame⟩ := List.mem_map.mp hmem
    obtain ⟨hname', hfile'⟩ := Prod.mk.injEq .. ▸ hsame
    exact ⟨m', hm', hname'.trans hname, by rw [hfile', hfile]⟩
  paths m' hm' f hf := by
    have hmem := List.mem_map_of_mem (f := fun m : LoadedModule => (m.name, m.file)) hm'
    rw [hmodules] at hmem
    obtain ⟨m, hm, hsame⟩ := List.mem_map.mp hmem
    obtain ⟨hname, hfile⟩ := Prod.mk.injEq .. ▸ hsame
    rw [hclasses, ← hname]
    exact h.paths m hm f (hfile.trans hf)

/-- A change of modules that leaves their names and files. -/
theorem map_changeModule {module : String} {f : LoadedModule → LoadedModule}
    (hf : ∀ m, (f m).name = m.name ∧ (f m).file = m.file) :
    (w.changeModule module f).modules.toList.map (fun m => (m.name, m.file)) =
      w.modules.toList.map fun m => (m.name, m.file) := by
  unfold changeModule
  split
  · next i _ =>
    refine List.ext_getElem? fun j => ?_
    simp only [List.getElem?_map, Array.getElem?_toList, Array.getElem?_modify]
    split
    · rw [Option.map_map]
      exact congrArg (Option.map · _) (funext fun m => Prod.ext (hf m).1 (hf m).2)
    · rfl
  · rfl

theorem classes_changeModule {module : String} {f : LoadedModule → LoadedModule} :
    (w.changeModule module f).classes = w.classes := by
  unfold changeModule
  split <;> rfl

/-- The class statement of a class is in its file. -/
theorem Accounted.statement (hw : w.Accounted t)
    (hnames : (w.modules.toList.map LoadedModule.name).Nodup) {i : Nat} {info : ClassInfo}
    (hi : w.classes[i]? = some info) :
    ∃ p k, w.statement? i = some (SearchPath.absolute p, k) ∧
      (t.classStatements p)[k]? = some info.path := by
  have hi' : w.classes.toList[i]? = some info := by simpa using hi
  obtain ⟨m, hm, hname, hfile⟩ := hw.modules info (List.mem_of_getElem? hi')
  obtain ⟨f, hf⟩ := Option.isSome_iff_exists.mp hfile
  obtain ⟨p, rfl, hprefix⟩ := hw.paths m hm f hf
  refine ⟨p, (pathsIn info.module (w.classes.toList.take i)).length, by
    rw [statement?, hi, Option.bind_some, ← hname, named?_of_mem hnames hm, Option.bind_some, hf]
    rfl, ?_⟩
  have hlt := (List.getElem?_eq_some_iff.mp hi').1
  have hsplit : w.classes.toList =
      w.classes.toList.take i ++ info :: w.classes.toList.drop (i + 1) := by
    obtain ⟨_, rfl⟩ := List.getElem?_eq_some_iff.mp hi'
    rw [List.getElem_cons_drop, List.take_append_drop]
  have hpaths : pathsIn m.name w.classes.toList = pathsIn info.module (w.classes.toList.take i) ++
      info.path :: pathsIn info.module (w.classes.toList.drop (i + 1)) := by
    rw [hname, congrArg (pathsIn info.module) hsplit, pathsIn_append]
    simp [pathsIn]
  obtain ⟨rest, hrest⟩ := hprefix
  rw [← hrest, hpaths, List.append_assoc, List.getElem?_append_right (Nat.le_refl _), Nat.sub_self]
  rfl

/-- A later class of a module has more classes of the module before it. -/
theorem length_pathsIn_lt {i j : Nat} {info : ClassInfo} (hi : w.classes[i]? = some info)
    (hij : i < j) : (pathsIn info.module (w.classes.toList.take i)).length <
      (pathsIn info.module (w.classes.toList.take j)).length := by
  have hi' : w.classes.toList[i]? = some info := by simpa using hi
  have hsplit : w.classes.toList.take (i + 1) = w.classes.toList.take i ++ [info] := by
    rw [List.take_add_one, hi']
    rfl
  have hprefix : w.classes.toList.take (i + 1) <+: w.classes.toList.take j :=
    List.take_prefix_take_left (by omega)
  obtain ⟨rest, hrest⟩ := hprefix
  rw [← hrest, hsplit, pathsIn_append, pathsIn_append]
  simp [pathsIn]

theorem statement?_eq_some {i : Nat} {f : String} {k : Nat} (h : w.statement? i = some (f, k)) :
    ∃ info m, w.classes[i]? = some info ∧ m ∈ w.modules.toList ∧ m.name = info.module ∧
      m.file = some f ∧ k = (pathsIn info.module (w.classes.toList.take i)).length := by
  obtain ⟨info, hinfo, h⟩ := Option.bind_eq_some_iff.mp h
  obtain ⟨g, hg, h⟩ := Option.map_eq_some_iff.mp h
  obtain ⟨m, hm, hfile⟩ := Option.bind_eq_some_iff.mp hg
  cases h
  exact ⟨info, m, hinfo, (of_named? hm).1, (of_named? hm).2, hfile, rfl⟩

/-- A class statement has made one class. -/
theorem RunOnce.eq_of_statement (hw : w.RunOnce) {i j : Nat} {x : String × Nat}
    (hi : w.statement? i = some x) (hj : w.statement? j = some x) : i = j := by
  obtain ⟨f, k⟩ := x
  obtain ⟨info, m, hinfo, hm, hname, hfile, hk⟩ := statement?_eq_some hi
  obtain ⟨info', m', hinfo', hm', hname', hfile', hk'⟩ := statement?_eq_some hj
  have hsame : m = m' := by
    have hfiles := List.pairwise_filterMap.mp hw.files
    have hsymm : Std.Symm fun m m' : LoadedModule =>
        ∀ b, m.file = some b → ∀ b', m'.file = some b' → b ≠ b' :=
      ⟨fun _ _ h b hb b' hb' he => h b' hb' b hb he.symm⟩
    by_contra hne
    exact hfiles.forall hm hm' hne f hfile f hfile' rfl
  have hmodule : info'.module = info.module := by rw [← hname, ← hname', hsame]
  rw [hmodule] at hk'
  rcases Nat.lt_trichotomy i j with hlt | rfl | hlt
  · have := length_pathsIn_lt hinfo hlt
    omega
  · rfl
  · have := length_pathsIn_lt hinfo' hlt
    rw [hmodule] at this
    omega

/-- The class statement that a declaration comes from, if it declares a class of a module. -/
def declaredStatement? (w : World) (d : TypeDeclaration Value) : Option (String × Nat) :=
  match d.source with
  | .cls (.declared i) => w.statement? i
  | _ => none

/-- A class is declared once. -/
theorem source_ne_of_pairwise {o : Options Value} {roots : List Value} {r : Registry Value}
    (h : w.types.collect o roots = some r) :
    r.types.Pairwise fun d e => (d.source == e.source) = false := by
  obtain ⟨⟨types, enums, ha⟩, -⟩ := Universe.serves_collect (types_coherent w) h
  obtain ⟨rfl, -, -⟩ := ha.of_fresh
  exact ha.distinct

/-- A class statement is declared once. -/
theorem RunOnce.eq_of_declaredStatement (hw : w.RunOnce) {o : Options Value} {roots : List Value}
    {r : Registry Value} (h : w.types.collect o roots = some r) {d e : TypeDeclaration Value}
    (hd : d ∈ r.types) (he : e ∈ r.types) (hsome : (w.declaredStatement? d).isSome = true)
    (heq : w.declaredStatement? d = w.declaredStatement? e) : d = e := by
  have hclass : ∀ d : TypeDeclaration Value, ∀ x, w.declaredStatement? d = some x →
      ∃ i, d.source = .cls (.declared i) ∧ w.statement? i = some x := by
    intro d x hx
    unfold declaredStatement? at hx
    split at hx
    · next i hi => exact ⟨i, hi, hx⟩
    · cases hx
  obtain ⟨x, hx⟩ := Option.isSome_iff_exists.mp hsome
  obtain ⟨i, hi, hstatement⟩ := hclass d x hx
  obtain ⟨j, hj, hstatement'⟩ := hclass e x (heq ▸ hx)
  obtain rfl := hw.eq_of_statement hstatement hstatement'
  have hself : ((Value.cls (.declared i)) == (.cls (.declared i))) = true := by
    change Value.sameKey _ _ = true
    simp [Value.sameKey, Value.same, Value.isHashable, ClassRef.equals]
  have honce := List.pairwise_iff_getElem.mp (source_ne_of_pairwise h)
  obtain ⟨a, ha, rfl⟩ := List.getElem_of_mem hd
  obtain ⟨b, hb, rfl⟩ := List.getElem_of_mem he
  rcases Nat.lt_trichotomy a b with hlt | rfl | hlt
  · have hne := honce a b ha hb hlt
    rw [hi, hj, hself] at hne
    cases hne
  · rfl
  · have hne := honce b a hb ha hlt
    rw [hi, hj, hself] at hne
    cases hne

end Annotation.World

/-! Loading. -/

namespace Loading

variable {α β : Type} {t : FileTree} {s s' : Session} {inputs : List String} {done : List Place}
  {modules : List InputModule}

/-- A step that keeps accounts if it succeeds, as long as names are given once. -/
def KeepsAccounts (m : Loading α) : Prop :=
  ∀ s s' a, FileTree.Plain s.tree.home → m.run.run s = (.ok a, s') → s'.tree = s.tree ∧
    ((s'.world.modules.toList.map LoadedModule.name).Nodup →
      (s.world.modules.toList.map LoadedModule.name).Nodup ∧
      (s.world.Accounted s.tree → s'.world.Accounted s.tree))

theorem keepsAccounts_same {m : Loading α} (h : ∀ s s' a, m.run.run s = (.ok a, s') → s' = s) :
    KeepsAccounts m := by
  intro s s' a _ hrun
  obtain rfl := h s s' a hrun
  exact ⟨rfl, fun hnames => ⟨hnames, id⟩⟩

theorem keepsAccounts_bind {m : Loading α} {f : α → Loading β} (hm : KeepsAccounts m)
    (hf : ∀ a, KeepsAccounts (f a)) : KeepsAccounts (m >>= f) := by
  intro s s'' b hhome hrun
  obtain ⟨a, s', hrun, hrun'⟩ := run_bind_ok.mp hrun
  obtain ⟨htree, hkeeps⟩ := hm s s' a hhome hrun
  obtain ⟨htree', hkeeps'⟩ := hf a s' s'' b (by rw [htree]; exact hhome) hrun'
  refine ⟨htree'.trans htree, fun hnames => ?_⟩
  obtain ⟨hnames', haccounts'⟩ := hkeeps' hnames
  obtain ⟨hnames, haccounts⟩ := hkeeps hnames'
  rw [htree] at haccounts'
  exact ⟨hnames, fun h => haccounts' (haccounts h)⟩

theorem keepsAccounts_pure {a : α} : KeepsAccounts (pure a : Loading α) :=
  keepsAccounts_same fun _ _ _ h => by cases h; rfl

theorem keepsAccounts_failed {f : InputFault} : KeepsAccounts (failed f : Loading α) :=
  fun _ _ _ _ h => nomatch h

/-- A step that begins with a look at the session. -/
theorem keepsAccounts_look {f : Session → Loading β}
    (h : ∀ s, FileTree.Plain s.tree.home → KeepsAccounts (f s)) : KeepsAccounts (get >>= f) :=
  fun s s' a hhome hrun => h s hhome s s' a hhome hrun

theorem keepsAccounts_loadFile {p : Place} (hp : FileTree.Plain p) :
    KeepsAccounts (loadFile ⟨"/", p⟩) := by
  intro s s' h _ hrun
  obtain ⟨module, -, htree, ⟨-, hworld, -⟩ | ⟨w, version, hlaunch, hworld, -⟩⟩ := loadFile_ok hp hrun
  · rw [hworld]
    exact ⟨htree, fun hnames => ⟨hnames, id⟩⟩
  have hforgotten : (s.world.forgetModule module).current.lookup module = none :=
    (current_forgetModule s.world module module).trans (if_pos rfl)
  rw [Session.searchPath, htree] at hlaunch
  obtain ⟨_, made, -, hran, -, hcurrent, -⟩ := executed_of_launch hforgotten hlaunch
  have hmodules : s'.world.modules.toList.map (fun m => (m.name, m.file)) =
      w.modules.toList.map fun m => (m.name, m.file) := by
    rw [hworld]
    exact World.map_changeModule fun _ => ⟨rfl, rfl⟩
  have hsame : s'.world.modules.toList.map LoadedModule.name =
      w.modules.toList.map LoadedModule.name := by
    have hfirst := congrArg (List.map Prod.fst) hmodules
    rwa [List.map_map, List.map_map] at hfirst
  refine ⟨htree, fun hnames => ?_⟩
  rw [hsame] at hnames
  refine ⟨hran.nodup hnames, fun haccounts => ?_⟩
  have hw := hran.accounted hnames ⟨haccounts.modules, haccounts.paths⟩
  exact hw.of_same (by rw [hworld, World.classes_changeModule]) hmodules

theorem keepsAccounts_importInput {module : String} :
    KeepsAccounts (importInput false module) := by
  intro s s' h _ hrun
  have hget : (get : Loading Session).run.run s = (.ok s, s) := rfl
  unfold importInput at hrun
  split at hrun
  · cases hrun
  rw [run_bind, hget] at hrun
  obtain ⟨⟨⟩, s₁, hrunning, hrun⟩ := run_bind_ok.mp hrun
  obtain ⟨w, himport, rfl⟩ := running_ok.mp hrunning
  obtain ⟨rfl, -⟩ := handleOf_ok hrun
  obtain ⟨done, made, -, hran, -⟩ := traces_importNamed (s := s.searchPath)
    (s.searchPath.fuel module) none module s.world fun _ h => by cases h
  rw [himport] at hran
  exact ⟨rfl, fun hnames => ⟨hran.nodup hnames, hran.accounted hnames⟩⟩

theorem keepsAccounts_loadFiles {ps : List Place} (hps : ∀ p ∈ ps, FileTree.Plain p)
    (done : List Place) : KeepsAccounts (loadFiles done ps) := by
  induction ps generalizing done with
  | nil => exact keepsAccounts_pure
  | cons p ps ih =>
    have hrest := ih fun q hq => hps q (List.mem_cons_of_mem _ hq)
    rw [loadFiles]
    split
    · exact hrest done
    · refine keepsAccounts_bind (keepsAccounts_loadFile (hps p (List.mem_cons_self ..))) fun h => ?_
      exact keepsAccounts_bind (hrest _) fun _ => keepsAccounts_pure

theorem keepsAccounts_loadFrom (inputs : List String) (done : List Place) :
    KeepsAccounts (loadFrom false done inputs) := by
  induction inputs generalizing done with
  | nil => exact keepsAccounts_pure
  | cons input rest ih =>
    rw [loadFrom]
    refine keepsAccounts_look fun s hhome => ?_
    dsimp only
    split
    · exact keepsAccounts_failed
    split
    · split
      · exact keepsAccounts_failed
      · refine keepsAccounts_bind (keepsAccounts_loadFiles (fun p hp =>
          FileTree.plain_of_mem_collect hhome hp) done) fun _ => ?_
        exact keepsAccounts_bind (ih _) fun _ => keepsAccounts_pure
    · refine keepsAccounts_bind keepsAccounts_importInput fun h => ?_
      exact keepsAccounts_bind (ih _) fun _ => keepsAccounts_pure

/-- Where no file is run twice and no two modules have one name, every class of the inputs comes
from a class statement of a file, and each class statement gives one declaration at most, whatever
is generated and from whichever file it is reached. -/
theorem class_statements_declared_once (hhome : FileTree.Plain t.home)
    (hrun : (loadInputs false inputs).run.run (Session.fresh t) = (.ok modules, s))
    (honce : s.world.RunOnce) :
    (∀ i info, s.world.classes[i]? = some info → ∃ p k,
      s.world.statement? i = some (SearchPath.absolute p, k) ∧
        (t.classStatements p)[k]? = some info.path) ∧
    ∀ o roots r, s.world.types.collect o roots = some r → ∀ d ∈ r.types, ∀ e ∈ r.types,
      (s.world.declaredStatement? d).isSome = true →
      s.world.declaredStatement? d = s.world.declaredStatement? e → d = e := by
  obtain ⟨-, hkeeps⟩ := keepsAccounts_loadFrom inputs [] _ _ _ hhome hrun
  have haccounts := (hkeeps honce.names).2 (World.accounted_initial t)
  exact ⟨fun i info hi => haccounts.statement honce.names hi,
    fun o roots r h d hd e he => honce.eq_of_declaredStatement h hd he⟩

/-- Two files that import a class from a third one. -/
def sharedBase : FileTree :=
  (((FileTree.empty ["work"]).write ["work", "base.py"] (.definitions ⟨false, [
      .cls (.mk "Base" [] [] "" [.field "x" "int" none])]⟩)).write
    ["work", "left.py"] (.definitions ⟨false, [
      .imports "base" ["Base"],
      .cls (.mk "Left" ["Base"] [] "" [])]⟩)).write
    ["work", "right.py"] (.definitions ⟨false, [
      .imports "base" ["Base"],
      .cls (.mk "Right" [] [] "" [.field "base" "Base" none])]⟩)

/-- The importing files are loaded. -/
def sharedBaseLoaded : Except InputFault (List InputModule) × Session :=
  (loadInputs false ["left.py", "right.py"]).run.run (Session.fresh sharedBase)

/-- What is declared for modules, each class with its statement. -/
def declaredSources (w : World) (modules : List InputModule) :
    Option (List (Option (String × Nat) × Option ClassRef)) :=
  (InputModule.allRoots w modules).toOption.bind fun roots =>
    (w.types.collect Options.default roots).map fun r =>
      r.types.map fun d => (w.declaredStatement? d, d.source.class?)

theorem class_statements_declared_once_shared :
    ∃ modules s, (loadInputs false ["left.py", "right.py"]).run.run (Session.fresh sharedBase) =
        (.ok modules, s) ∧ s.world.RunOnce ∧
      declaredSources s.world modules =
        some [(some ("/work/base.py", 0), some (.declared 0)),
          (some ("/work/left.py", 0), some (.declared 1)),
          (some ("/work/right.py", 0), some (.declared 2))] ∧
      (∀ i info, s.world.classes[i]? = some info → ∃ p k,
        s.world.statement? i = some (SearchPath.absolute p, k) ∧
          (sharedBase.classStatements p)[k]? = some info.path) ∧
      ∀ o roots r, s.world.types.collect o roots = some r → ∀ d ∈ r.types, ∀ e ∈ r.types,
        (s.world.declaredStatement? d).isSome = true →
        s.world.declaredStatement? d = s.world.declaredStatement? e → d = e := by
  have hhome : FileTree.Plain sharedBase.home := by
    unfold FileTree.Plain
    decide
  obtain ⟨hok, hnames, hfiles, hdeclared⟩ :
      sharedBaseLoaded.1.toOption = some [⟨.loaded 0, []⟩, ⟨.loaded 2, []⟩] ∧
      (sharedBaseLoaded.2.world.modules.toList.map LoadedModule.name).Nodup ∧
      (sharedBaseLoaded.2.world.modules.toList.filterMap LoadedModule.file).Nodup ∧
      declaredSources sharedBaseLoaded.2.world [⟨.loaded 0, []⟩, ⟨.loaded 2, []⟩] =
        some [(some ("/work/base.py", 0), some (.declared 0)),
          (some ("/work/left.py", 0), some (.declared 1)),
          (some ("/work/right.py", 0), some (.declared 2))] := by
    decide +kernel
  have honce : sharedBaseLoaded.2.world.RunOnce := ⟨hnames, hfiles⟩
  have hrun := eq_ok_of_toOption hok
  exact ⟨_, _, hrun, honce, hdeclared, class_statements_declared_once hhome hrun honce⟩

/-- A file that imports a class from the file next to it. -/
def siblings : FileTree :=
  ((FileTree.empty ["work"]).write ["work", "a.py"] (.definitions ⟨false, [
      .cls (.mk "A" [] [] "" [.field "x" "int" none])]⟩)).write
    ["work", "b.py"] (.definitions ⟨false, [
      .imports "a" ["A"],
      .cls (.mk "B" [] [] "" [.field "a" "A" none])]⟩)

/-- Both files are loaded. -/
def siblingsLoaded : Except InputFault (List InputModule) × Session :=
  (loadInputs false ["a.py", "b.py"]).run.run (Session.fresh siblings)

/-- The imported file is run under its plain name too, as the folder of a loaded file is searched
for imports: its class statement then gives two declarations. -/
theorem class_statements_not_always_once :
    ¬ ∀ (t : FileTree) (inputs : List String) (modules : List InputModule) (s : Session)
        (roots : List Value), FileTree.Plain t.home →
      (∀ input ∈ inputs, t.looksLikePath input = true) →
      (loadInputs false inputs).run.run (Session.fresh t) = (.ok modules, s) →
      InputModule.allRoots s.world modules = .ok roots →
      ∀ o r, s.world.types.collect o roots = some r → ∀ d ∈ r.types, ∀ e ∈ r.types,
        (s.world.declaredStatement? d).isSome = true →
        s.world.declaredStatement? d = s.world.declaredStatement? e → d = e := by
  intro hall
  obtain ⟨hok, hsources⟩ :
      siblingsLoaded.1.toOption = some [⟨.loaded 0, []⟩, ⟨.loaded 1, []⟩] ∧
      declaredSources siblingsLoaded.2.world [⟨.loaded 0, []⟩, ⟨.loaded 1, []⟩] =
        some [(some ("/work/a.py", 0), some (.declared 0)),
          (some ("/work/b.py", 0), some (.declared 2)),
          (some ("/work/a.py", 0), some (.declared 1))] := by
    decide +kernel
  have hpaths : ∀ input ∈ ["a.py", "b.py"], siblings.looksLikePath input = true := by
    decide
  have hhome : FileTree.Plain siblings.home := by
    unfold FileTree.Plain
    decide
  obtain ⟨roots, hroots, hcollect⟩ := Option.bind_eq_some_iff.mp hsources
  obtain ⟨r, hr, htypes⟩ := Option.map_eq_some_iff.mp hcollect
  have hrun := eq_ok_of_toOption hok
  have honce := hall siblings ["a.py", "b.py"] _ _ roots hhome hpaths hrun
    (ok_of_toOption hroots) Options.default r hr
  -- two declarations of the first class statement
  obtain ⟨d, hd, hpair⟩ : ∃ d ∈ r.types, (siblingsLoaded.2.world.declaredStatement? d,
      d.source.class?) = (some ("/work/a.py", 0), some (.declared 0)) :=
    List.mem_map.mp (htypes ▸ List.mem_cons_self ..)
  obtain ⟨e, he, hpair'⟩ : ∃ e ∈ r.types, (siblingsLoaded.2.world.declaredStatement? e,
      e.source.class?) = (some ("/work/a.py", 0), some (.declared 1)) :=
    List.mem_map.mp (htypes ▸ by simp)
  obtain ⟨hstatement, hclass⟩ := Prod.mk.injEq .. ▸ hpair
  obtain ⟨hstatement', hclass'⟩ := Prod.mk.injEq .. ▸ hpair'
  obtain rfl := honce d hd e he (by rw [hstatement]; rfl) (hstatement.trans hstatement'.symm)
  exact absurd (hclass.symm.trans hclass') (by decide)

end Loading

end TypeProjection
