import TypeProjection.Proofs.LoadedInputs
import TypeProjection.Proofs.RelocatedWorlds

/-!
# Modules that stay where they are

An input that is no path asks for a module by its name. The module is looked for in the working
directory, or in the folders of the package around it, which is imported first. While the modules
that inputs ask for stay where they are, and import nothing of each other, a world finds them with
the files and folders that they have; and a module that is imported for the first time runs as it
runs alone.
-/

namespace TypeProjection

open Annotation
open Definition (Run run_bind)

namespace SearchPath

variable {module package outer name : String}

/-- The packages around a module: what stands before each point of its name. -/
def packagesAround (module : String) : List String :=
  ((List.range module.toList.length).filter fun k => module.toList[k]? == some '.').map fun k =>
    String.ofList (module.toList.take k)

theorem mem_packagesAround : package ∈ packagesAround module ↔
    ∃ rest, module.toList = package.toList ++ '.' :: rest := by
  unfold packagesAround
  simp only [List.mem_map, List.mem_filter, List.mem_range, beq_iff_eq]
  constructor
  · rintro ⟨k, ⟨-, hpoint⟩, rfl⟩
    obtain ⟨hlt, hget⟩ := List.getElem?_eq_some_iff.mp hpoint
    refine ⟨module.toList.drop (k + 1), ?_⟩
    rw [String.toList_ofList, ← hget, ← List.drop_eq_getElem_cons hlt, List.take_append_drop]
  · rintro ⟨rest, h⟩
    refine ⟨package.toList.length, ⟨?_, ?_⟩, ?_⟩
    · rw [h, List.length_append, List.length_cons]
      omega
    · rw [h, List.getElem?_append_right (Nat.le_refl _), Nat.sub_self]
      rfl
    · rw [h, List.take_left, String.ofList_toList]

theorem packagesAround_trans (h : package ∈ packagesAround module)
    (houter : outer ∈ packagesAround package) : outer ∈ packagesAround module := by
  obtain ⟨rest, h⟩ := mem_packagesAround.mp h
  obtain ⟨more, houter⟩ := mem_packagesAround.mp houter
  refine mem_packagesAround.mpr ⟨more ++ '.' :: rest, ?_⟩
  rw [h, houter, List.append_assoc, List.cons_append]

theorem length_packagesAround (h : package ∈ packagesAround module) :
    package.length < module.length := by
  obtain ⟨rest, h⟩ := mem_packagesAround.mp h
  rw [← String.length_toList, ← String.length_toList (s := module), h, List.length_append,
    List.length_cons]
  omega

theorem cutLast_around (h : (cutLast module).1 = some package) :
    package ∈ packagesAround module :=
  mem_packagesAround.mpr ⟨(cutLast module).2.toList, cutLast_some (Prod.ext h rfl)⟩

/-! What has been found. -/

/-- The file of a module, if it has a source. -/
def Found.file : Found → Option String
  | .source file _ => some (absolute file)
  | _ => none

/-- The folders of the submodules. -/
def Found.folders : Found → Option (List Place)
  | .source _ folders => folders
  | .compiled _ => none
  | .portions folders => some folders

/-- Is there no source to be run? -/
def Found.isReady : Found → Bool
  | .source _ _ => false
  | _ => true

/-- The entry that a module begins with. -/
def Found.entry (module : String) (found : Found) : LoadedModule :=
  ⟨module, [], found.file, found.folders, none, found.isReady⟩

/-- What a module holds; folders hold nothing themselves. -/
def Found.content (t : FileTree) : Found → FileContent
  | .source file _ => contentAt t file
  | _ => .bytes []

/-! How long the names are that files import from. -/

theorem length_le_importLength {source : Definition.Source} {written : String}
    {names : List String} (h : .imports written names ∈ source.definitions) :
    written.length ≤ importLength (.definitions source) :=
  List.le_max_of_le (List.mem_map_of_mem h) le_rfl

theorem importLength_contentAt (t : FileTree) (p : Place) :
    importLength (contentAt t p) ≤ longestImport t := by
  unfold contentAt
  split
  · next content version hnode =>
    unfold FileTree.node? at hnode
    split at hnode
    · cases hnode
    · exact List.le_max_of_le (List.mem_map_of_mem (mem_of_lookup hnode)) le_rfl
  · exact Nat.zero_le _

theorem importLength_found (t : FileTree) (found : Found) :
    importLength (found.content t) ≤ longestImport t := by
  cases found with
  | source file folders => exact importLength_contentAt t file
  | compiled file => exact Nat.zero_le _
  | portions folders => exact Nat.zero_le _

end SearchPath

/-- The modules that inputs ask for. -/
def Loading.asked (inputs : List String) : List String :=
  inputs.map fun input => (Loading.cutInput input).1

/-- The modules that inputs ask for, and the packages around these. -/
def Loading.involved (inputs : List String) : List String :=
  asked inputs ++ (asked inputs).flatMap SearchPath.packagesAround

open Loading (asked involved)
open SearchPath (packagesAround cutLast)

/-- Where the modules are that inputs ask for, and the packages around them. No module is asked for
that has others inside of it. -/
structure Layout (inputs : List String) where
  home : Place
  site : String → SearchPath.Found
  own : ∀ n ∈ involved inputs, IsOwnName n
  source : ∀ n ∈ asked inputs, ∃ file folders, site n = .source file folders
  package : ∀ n ∈ asked inputs, ∀ p ∈ packagesAround n,
    p ∉ asked inputs ∧ (site p).folders.isSome = true

namespace Layout

variable {inputs : List String} (l : Layout inputs) (t : FileTree) (n : String)

/-- The entry that a module begins with. -/
def entry : LoadedModule := (l.site n).entry n

/-- What a module holds. -/
def content : FileContent := (l.site n).content t

/-- A module that is run alone. -/
def solo : Except Annotation.Fault Unit × World := soloRun (l.entry n) (l.content t n)

/-- How a module ends that is run alone. -/
def verdict : Except Annotation.Fault Unit := (l.solo t n).1

/-- The folders in which a module is looked for. -/
def around : List Place :=
  match (cutLast n).1 with
  | none => [l.home]
  | some p => (l.site p).folders.getD []

/-- Files in which modules are where they should be. The modules import from abroad alone, mark no
variable of the library, and the packages around them make nothing. -/
structure Laid : Prop where
  home : t.home = l.home
  modules : ∀ input ∈ inputs, t.looksLikePath input = false
  located : ∀ n ∈ involved inputs,
    SearchPath.findAmong t (cutLast n).2 (l.around n) = some (l.site n)
  abroad : ∀ n ∈ involved inputs,
    SearchPath.ImportsAbroad ⟨t, [l.home]⟩ (· ∈ involved inputs) n (l.content t n)
  absolute : ∀ n ∈ involved inputs,
    (l.site n).folders = none ∨ SearchPath.ImportsAbsolute (l.content t n)
  unmarked : ∀ n ∈ involved inputs, (l.solo t n).2.Unmarked
  idle : ∀ n ∈ asked inputs, ∀ p ∈ packagesAround n,
    l.verdict t p = .ok () ∧ ∀ k, (l.solo t p).2.count k = World.initial.count k

/-- A world finds nothing but modules of the layout, with their files and folders, and with each
module the package around it. Nobody has marked the variables of the library. -/
structure Sited (w : World) : Prop where
  closed : w.Closed
  unmarked : w.Unmarked
  found : ∀ n i, w.current.lookup n = some i → n ∈ involved inputs ∧
    ∃ x, w.modules[i]? = some x ∧ x.name = n ∧ x.file = (l.site n).file ∧
      x.folders = (l.site n).folders
  packaged : ∀ n i p, w.current.lookup n = some i → (cutLast n).1 = some p →
    (w.current.lookup p).isSome = true

end Layout

theorem namesOf_of_loaded {w : World} {n : String} {x : LoadedModule}
    (h : w.loaded? n = some x) : w.namesOf n = x.names := by
  rw [World.namesOf, h]
  rfl

section Involved

variable {inputs : List String} {n p : String}

theorem involved_of_asked (h : n ∈ asked inputs) : n ∈ involved inputs := List.mem_append_left _ h

theorem mem_involved : n ∈ involved inputs ↔
    n ∈ asked inputs ∨ ∃ m ∈ asked inputs, n ∈ packagesAround m := by
  rw [involved, List.mem_append, List.mem_flatMap]

/-- A package around an involved module is one around a module that is asked for. -/
theorem involved_package (h : n ∈ involved inputs) (hp : p ∈ packagesAround n) :
    ∃ m ∈ asked inputs, p ∈ packagesAround m := by
  rcases mem_involved.mp h with h | ⟨m, hm, h⟩
  · exact ⟨n, h, hp⟩
  · exact ⟨m, hm, SearchPath.packagesAround_trans h hp⟩

end Involved

namespace Layout

variable {inputs : List String} {l : Layout inputs} {t : FileTree} {n p : String} {w w' : World}
  {i : Nat} {x : LoadedModule}

/-- What is around an involved module is no module that is asked for, and has folders. -/
theorem around_package (hn : n ∈ involved inputs) (hp : (cutLast n).1 = some p) :
    p ∈ involved inputs ∧ p ∉ asked inputs ∧ (l.site p).folders.isSome = true := by
  obtain ⟨m, hm, h⟩ := involved_package hn (SearchPath.cutLast_around hp)
  exact ⟨mem_involved.mpr (.inr ⟨m, hm, h⟩), l.package m hm p h⟩

include l in
theorem isKnown_involved (hn : n ∈ involved inputs) :
    SearchPath.isKnown w n = (w.current.lookup n).isSome := by
  have hlibrary : libraryModules.contains n = false :=
    Bool.eq_false_iff.mpr fun hmem => (l.own n hn).2 (List.contains_iff_mem.mp hmem)
  rw [SearchPath.isKnown, hlibrary, Bool.or_false]

/-- Nothing is found in the first world. -/
theorem sited_initial : l.Sited World.initial where
  closed := closed_initial
  unmarked _ _ := List.getElem?_toArray
  found _ _ h := nomatch h
  packaged _ _ _ h := nomatch h

namespace Sited

variable (h : l.Sited w)

include h

theorem within : w.Within (· ∈ involved inputs) := fun n i hi => (h.found n i hi).1

theorem own : w.Within IsOwnName := fun n i hi => l.own n (h.within n i hi)

theorem library {m : String} (hm : m ∈ libraryModules) : w.current.lookup m = none := by
  cases hi : w.current.lookup m with
  | none => rfl
  | some i => exact ((h.own m i hi).2 hm).elim

theorem distinguishes : w.Distinguishes := by
  intro n n' i hi hi'
  obtain ⟨-, x, hx, hname, -⟩ := h.found n i hi
  obtain ⟨-, x', hx', hname', -⟩ := h.found n' i hi'
  obtain rfl : x = x' := Option.some.inj (hx.symm.trans hx')
  exact hname.symm.trans hname'

theorem loaded? (hi : w.current.lookup n = some i) : ∃ x, w.loaded? n = some x ∧ x.name = n ∧
    x.file = (l.site n).file ∧ x.folders = (l.site n).folders := by
  obtain ⟨-, x, hx⟩ := h.found n i hi
  exact ⟨x, (loaded?_of_current hi).trans hx.1, hx.2⟩

theorem file (hx : w.loaded? n = some x) : x.file = (l.site n).file := by
  obtain ⟨i, hi, hget⟩ := Option.bind_eq_some_iff.mp hx
  obtain ⟨-, y, hy, -, hfile, -⟩ := h.found n i hi
  obtain rfl : x = y := Option.some.inj (hget.symm.trans hy)
  exact hfile

/-- The folders in which a module is looked for, if the package around it is known. -/
theorem foldersOf (hn : n ∈ involved inputs)
    (hpackage : ∀ p, (cutLast n).1 = some p → (w.current.lookup p).isSome = true) :
    (⟨t, [l.home]⟩ : SearchPath).foldersOf w n (cutLast n).1 = .ok (l.around n) := by
  unfold around
  cases hp : (cutLast n).1 with
  | none => rfl
  | some p =>
    obtain ⟨i, hi⟩ := Option.isSome_iff_exists.mp (hpackage p hp)
    obtain ⟨x, hx, -, -, hfolders⟩ := h.loaded? hi
    obtain ⟨-, -, hsome⟩ := around_package (l := l) hn hp
    obtain ⟨folders, hsite⟩ := Option.isSome_iff_exists.mp hsome
    rw [hsite] at hfolders
    dsimp only [SearchPath.foldersOf]
    rw [hx, hsite]
    dsimp only
    rw [hfolders]
    rfl

/-- A world with the same modules, whatever has become of their names. -/
theorem keep (hclosed : w'.Closed) (hunmarked : w'.Unmarked) (hcurrent : w'.current = w.current)
    (hmodules : ∀ (i : Nat) x, w.modules[i]? = some x →
      ∃ x', w'.modules[i]? = some x' ∧ World.SameModule x x') : l.Sited w' where
  closed := hclosed
  unmarked := hunmarked
  found n i hi := by
    obtain ⟨hn, x, hx, hname, hfile, hfolders⟩ := h.found n i (hcurrent ▸ hi)
    obtain ⟨x', hx', hsame⟩ := hmodules i x hx
    exact ⟨hn, x', hx', hsame.name.trans hname, hsame.file.trans hfile,
      hsame.folders.trans hfolders⟩
  packaged n i p hi hp := by
    rw [hcurrent] at hi ⊢
    exact h.packaged n i p hi hp

/-- A change of the names of a module, or of its state. -/
theorem change {f : LoadedModule → LoadedModule} (hf : ∀ m, World.SameModule m (f m))
    (hsound : ∀ m, w.SoundNames m.names → w.SoundNames (f m).names) :
    l.Sited (w.changeModule n f) := by
  refine h.keep (World.closed_changeModule h.closed n hsound).1 (fun i hi => ?_)
    (current_changeModule w n f) fun i x hx => ?_
  · rw [typeVars_changeModule]
    exact h.unmarked i hi
  · unfold World.changeModule
    split
    · dsimp only
      rw [Array.getElem?_modify, hx]
      split
      · exact ⟨f x, rfl, hf x⟩
      · exact ⟨x, rfl, .refl x⟩
    · exact ⟨x, hx, .refl x⟩

/-- A module that is about to run for the first time. -/
theorem add (hn : n ∈ involved inputs)
    (hpackage : ∀ p, (cutLast n).1 = some p → (w.current.lookup p).isSome = true) :
    l.Sited (w.addModule (l.entry n)) where
  closed := (World.closed_addModule h.closed fun _ he => (List.not_mem_nil he).elim).1
  unmarked := h.unmarked
  found m i hi := by
    rw [current_addModule] at hi
    split at hi
    · next hm =>
      obtain rfl : w.modules.size = i := Option.some.inj hi
      obtain rfl : m = n := hm
      exact ⟨hn, l.entry m, Array.getElem?_push_size, rfl, rfl, rfl⟩
    · obtain ⟨hm, x, hx, hsame⟩ := h.found m i hi
      have hlt := (Array.getElem?_eq_some_iff.mp hx).1
      exact ⟨hm, x, ((Array.getElem?_push ..).trans (if_neg (Nat.ne_of_lt hlt))).trans hx, hsame⟩
  packaged m i p hi hp := by
    have hkept : (w.current.lookup p).isSome = true →
        ((w.addModule (l.entry n)).current.lookup p).isSome = true := by
      intro hsome
      rw [current_addModule]
      split
      · rfl
      · exact hsome
    rw [current_addModule] at hi
    split at hi
    · next hm =>
      obtain rfl : m = n := hm
      exact hkept (hpackage p hp)
    · exact hkept (h.packaged m i p hi hp)

/-- What there is after a module has run, however it has ended. -/
theorem ran {m : LoadedModule} {hosts : w.Hosts m} {content : FileContent}
    (hruns : hosts.Runs content w') (hsolo : (soloRun m content).2.Unmarked) : l.Sited w' := by
  refine h.keep hruns.closed (hruns.unmarked hsolo) hruns.spares.current fun i x hx => ?_
  obtain ⟨names, hx'⟩ := hruns.spares.own i x hx
  exact ⟨_, hx', rfl, rfl, rfl, rfl⟩

end Sited

/-- What there is after a module has run well for the first time. It has made a stretch that begins
where the world ended. -/
structure Launched (l : Layout inputs) (t : FileTree) (n : String) (b : Start) (w w' : World) :
    Prop where
  sited : l.Sited w'
  current : ∀ m, w'.current.lookup m =
    if m = n then some w.modules.size else w.current.lookup m
  begins : ∀ k, b.count k = w.count k
  ends : ∀ k, w.count k + Stretch.length ⟨l.entry n, l.content t n, b⟩ k = w'.count k
  holds : w'.Holds ⟨l.entry n, l.content t n, b⟩
  keeps : ∀ e, w.Holds e → e.module.name ≠ n → w'.Holds e
  stores : ∀ es, w.Stores es → w'.Stores es
  stores_made : ∀ es, w.Stores es → (∀ e ∈ es, e.module.name ≠ n) →
    w'.Stores (es ++ [⟨l.entry n, l.content t n, b⟩])

/-- A module that has run well for the first time has left its names and what it has made. -/
theorem Sited.launched (h : l.Sited w) (hn : n ∈ involved inputs)
    (hpackage : ∀ p, (cutLast n).1 = some p → (w.current.lookup p).isSome = true)
    {hosts : (w.addModule (l.entry n)).Hosts (l.entry n)} {w₁ w₂ : World}
    (hempty : hosts.track.earlier = []) (hruns : hosts.Runs (l.content t n) w₁)
    (hsolo : (l.solo t n).2.Unmarked) (hok : l.verdict t n = .ok ())
    (hw₂ : w₁.changeModule n (fun m => { m with isReady := true }) = w₂) :
    l.Launched t n ((w.addModule (l.entry n)).start hosts.closed) w w₂ := by
  have hsited := (h.add hn hpackage).ran hruns hsolo
  have hready : l.Sited w₂ := hw₂ ▸ hsited.change (fun _ => ⟨rfl, rfl, rfl, rfl⟩) fun _ hm => hm
  have hkeeps : w₁.Grown w₂ := by
    rw [← hw₂]
    exact (World.closed_changeModule hruns.closed n (f := fun m => { m with isReady := true })
      fun _ hm => hm).2
  have hvars : w₂.typeVars = w₁.typeVars := hw₂ ▸ typeVars_changeModule ..
  have hgrown : w.Grown (w.addModule (l.entry n)) :=
    (World.closed_addModule h.closed fun _ he => (List.not_mem_nil he).elim).2
  have hadded : (w.addModule (l.entry n)).current.lookup n = some w.modules.size :=
    (current_addModule ..).trans (if_pos rfl)
  have hentry : (w.addModule (l.entry n)).loaded? n = some (l.entry n) :=
    (loaded?_addModule ..).trans (if_pos rfl)
  have hnew : ∀ m i, w.current.lookup m = some i → i ≠ w.modules.size := by
    intro m i hi
    obtain ⟨-, x, hx, -⟩ := h.found m i hi
    exact Nat.ne_of_lt (Array.getElem?_eq_some_iff.mp hx).1
  have hbefore : ∀ m ≠ n, (w.addModule (l.entry n)).loaded? m = w.loaded? m := by
    intro m hm
    refine (loaded?_addModule ..).trans ((if_neg hm).trans ?_)
    rw [World.loaded?]
    cases hi : w.current.lookup m with
    | none => rfl
    | some i => rw [Option.bind_some, Option.bind_some, Array.getElem?_push, if_neg (hnew m i hi)]
  have hother : ∀ m ≠ n, w₂.loaded? m = w.loaded? m := by
    intro m hm
    rw [← hw₂, loaded?_changeModule hsited.distinguishes, if_neg hm, ← hbefore m hm]
    refine hruns.loaded?_other fun i hi hsame => ?_
    have hi' : w.current.lookup m = some i :=
      ((current_addModule ..).trans (if_neg hm)).symm.trans hi
    exact hnew m i hi' (Option.some.inj (hsame.symm.trans hadded))
  have hstored : ∀ es, w.Stores es → (w.addModule (l.entry n)).Stores es := fun es hes =>
    hes.keep hosts.closed hgrown rfl
  obtain ⟨hmade, hcount⟩ := hruns.made rfl hok
  refine ⟨hready, fun m => ?_, fun k => count_start _, fun k => ?_, ⟨?_, ?_⟩,
    fun e he hne => ⟨?_, ?_⟩, fun es hes => ?_, fun es hes hne => ?_⟩
  · rw [← hw₂, current_changeModule, hruns.spares.current]
    exact current_addModule ..
  · rw [← hw₂, count_changeModule, ← hcount]
    rfl
  · exact hmade.keep hkeeps fun i _ _ => by rw [hvars]
  · obtain ⟨names, hown⟩ := hruns.loaded?_own hentry
    refine ⟨{ l.entry n with names := names, isReady := true }, ?_, rfl, ?_⟩
    · rw [← hw₂, loaded?_changeModule hsited.distinguishes]
      exact (if_pos rfl).trans (congrArg _ hown)
    · have hfound : w₁.namesOf (l.entry n).name = names := namesOf_of_loaded hown
      exact hfound.symm.trans (hruns.follows.names.eq_renamed hempty)
  · refine (hruns.keeps (he.toMade.keep hgrown fun _ _ _ => rfl)).keep hkeeps fun i _ _ => ?_
    rw [hvars]
  · rw [hother _ hne]
    exact he.found
  · exact (hruns.stores (hstored es hes) hsolo).keep hready.closed hkeeps hvars
  · exact (hruns.stores_made (hstored es hes) hsolo rfl hok hne).keep hready.closed hkeeps hvars

/-- A module that has a source runs for the first time as it runs alone. -/
theorem Laid.launch (ht : l.Laid t) (h : l.Sited w) (hn : n ∈ involved inputs)
    (hpackage : ∀ p, (cutLast n).1 = some p → (w.current.lookup p).isSome = true)
    {k : Nat} (hk : SearchPath.longestImport t < k) {file : Place} {folders : Option (List Place)}
    (hsite : l.site n = .source file folders) :
    ∃ w', ((⟨t, [l.home]⟩ : SearchPath).load (SearchPath.importWith
        ((⟨t, [l.home]⟩ : SearchPath).importNamed k) n) n (l.site n)).run.run w =
          (l.verdict t n, w') ∧
      (l.verdict t n = .ok () → ∃ b, l.Launched t n b w w') := by
  have hhosts : (w.addModule (l.entry n)).Hosts (l.entry n) :=
    hosts_addModule h.closed h.unmarked (fun _ hm => h.library hm) rfl (l.own n hn).2
  have hempty : hhosts.track.earlier = [] := namesOf_addModule w (l.entry n)
  have hfuel : SearchPath.Suffices (fun _ => k) (l.content t n) := by
    intro source hsource written names hmem
    have hlength : SearchPath.importLength (l.content t n) ≤ SearchPath.longestImport t :=
      SearchPath.importLength_found t (l.site n)
    rw [hsource] at hlength
    exact Nat.lt_of_le_of_lt ((SearchPath.length_le_importLength hmem).trans hlength) hk
  obtain ⟨w₁, hrun, hruns⟩ := hhosts.runs rfl (ht.absolute n hn) (h.add hn hpackage).within
    (ht.abroad n hn) hfuel (Definition.Track.spared hempty _)
  have hload : ((⟨t, [l.home]⟩ : SearchPath).load (SearchPath.importWith
      ((⟨t, [l.home]⟩ : SearchPath).importNamed k) n) n (l.site n)) =
        SearchPath.launch (l.entry n) (SearchPath.execute
          ((⟨t, [l.home]⟩ : SearchPath).importWithin (fun _ => k) n) n (l.content t n)) := by
    unfold entry content
    rw [hsite]
    rfl
  have hbody : (SearchPath.execute ((⟨t, [l.home]⟩ : SearchPath).importWithin (fun _ => k) n) n
      (l.content t n)).run.run (w.addModule (l.entry n)) = (l.verdict t n, w₁) := hrun
  rw [hload, run_launch, hbody]
  rcases hverdict : l.verdict t n with f | ⟨⟩
  · exact ⟨_, rfl, nofun⟩
  · have hlaunched := h.launched hn hpackage hempty hruns (ht.unmarked n hn) hverdict rfl
    exact ⟨_, rfl, fun _ => ⟨_, hlaunched⟩⟩

/-! Importing. -/

theorem run_given {α β : Type} (a : α) (f : α → Run β) :
    (Definition.lifted (.ok a) >>= f).run.run w = (f a).run.run w := rfl

/-- Every module that one world finds is found in another at the same place. -/
def Retains (w w' : World) : Prop :=
  ∀ n i, w.current.lookup n = some i → w'.current.lookup n = some i

/-- A world has what the modules that are asked for have made, as far as it finds them, and nothing
else. -/
structure Imported (l : Layout inputs) (t : FileTree) (w : World) (es : List Stretch) : Prop where
  sited : l.Sited w
  stores : w.Stores es
  covered : w.Covered es
  holds : ∀ e ∈ es, w.Holds e
  source : ∀ e ∈ es, e.module.name ∈ asked inputs ∧ e.module = l.entry e.module.name ∧
    e.content = l.content t e.module.name
  known : ∀ n ∈ asked inputs, (w.current.lookup n).isSome = true → ∃ e ∈ es, e.module.name = n

theorem imported_initial (l : Layout inputs) (t : FileTree) : l.Imported t .initial [] where
  sited := l.sited_initial
  stores := stocks_initial.stores
  covered _ _ hle hlt := (Nat.not_lt.mpr hle hlt).elim
  holds _ he := (List.not_mem_nil he).elim
  source _ he := (List.not_mem_nil he).elim
  known _ _ h := nomatch h

namespace Imported

variable {es : List Stretch} (h : l.Imported t w es)

include h

/-- A module that is found has run well, and so have packages in any case. -/
theorem verdict_of_found (ht : l.Laid t) (hn : n ∈ involved inputs)
    (hfound : (w.current.lookup n).isSome = true) : l.verdict t n = .ok () := by
  rcases mem_involved.mp hn with hasked | ⟨m, hm, hpackage⟩
  · obtain ⟨e, he, rfl⟩ := h.known n hasked hfound
    obtain ⟨-, hmodule, hcontent⟩ := h.source e he
    have hran := (h.holds e he).proper.ran
    rw [hmodule, hcontent] at hran
    exact hran
  · exact (ht.idle m hm n hpackage).1

/-- A world in which nothing else was made, and no other module that is asked for is found. -/
theorem idle (hsited : l.Sited w') (hstores : w'.Stores es) (hholds : ∀ e ∈ es, w'.Holds e)
    (hcount : ∀ k, w'.count k = w.count k)
    (hcurrent : ∀ x ∈ asked inputs, w'.current.lookup x = w.current.lookup x) :
    l.Imported t w' es where
  sited := hsited
  stores := hstores
  covered k i hi hlt := h.covered k i hi (hcount k ▸ hlt)
  holds := hholds
  source := h.source
  known x hx hsome := h.known x hx (hcurrent x hx ▸ hsome)

/-- One more package makes nothing. -/
theorem addPackage (ht : l.Laid t) {m : String} (hm : m ∈ asked inputs) (hn : n ∈ packagesAround m)
    {b : Start} (hlaunched : l.Launched t n b w w') : l.Imported t w' es := by
  have hnot := (l.package m hm n hn).1
  refine h.idle hlaunched.sited (hlaunched.stores es h.stores) (fun e he => ?_) (fun k => ?_)
    fun x hx => ?_
  · exact hlaunched.keeps e (h.holds e he) fun hname => hnot (hname ▸ (h.source e he).1)
  · have hnothing : Stretch.length ⟨l.entry n, l.content t n, b⟩ k = 0 := by
      rw [Stretch.length]
      exact Nat.sub_eq_zero_of_le (Nat.le_of_eq ((ht.idle m hm n hn).2 k))
    rw [← hlaunched.ends k, hnothing, Nat.add_zero]
  · rw [hlaunched.current, if_neg]
    rintro rfl
    exact hnot hx

/-- So does one without a source. -/
theorem addFolders {m : String} (hm : m ∈ asked inputs) (hn : n ∈ packagesAround m)
    (hpackage : ∀ p, (cutLast n).1 = some p → (w.current.lookup p).isSome = true) :
    l.Imported t (w.addModule (l.entry n)) es := by
  have hnot := (l.package m hm n hn).1
  obtain ⟨hclosed, hgrown⟩ := World.closed_addModule h.sited.closed (m := l.entry n)
    fun _ he => (List.not_mem_nil he).elim
  refine h.idle (h.sited.add (mem_involved.mpr (.inr ⟨m, hm, hn⟩)) hpackage)
    (h.stores.keep hclosed hgrown rfl) (fun e he => ?_) (fun k => by cases k <;> rfl) fun x hx => ?_
  · refine (h.holds e he).keep hgrown (fun _ _ _ => rfl) ?_
    have hne : e.module.name ≠ n := fun hname => hnot (hname ▸ (h.source e he).1)
    obtain ⟨x, hx, -⟩ := (h.holds e he).found
    obtain ⟨i, hi, hentry⟩ := Option.bind_eq_some_iff.mp hx
    have hlt := (Array.getElem?_eq_some_iff.mp hentry).1
    refine congrArg _ ((loaded?_addModule ..).trans ((if_neg hne).trans ?_))
    rw [hi, hx, Option.bind_some, Array.getElem?_push, if_neg (Nat.ne_of_lt hlt)]
    exact hentry
  · refine (current_addModule ..).trans (if_neg ?_)
    rintro rfl
    exact hnot hx

/-- One more module that is asked for makes its stretch, and nothing else. -/
theorem addModule (hn : n ∈ asked inputs) (hnew : w.current.lookup n = none) {b : Start}
    (hlaunched : l.Launched t n b w w') :
    l.Imported t w' (es ++ [⟨l.entry n, l.content t n, b⟩]) := by
  have hdifferent : ∀ e ∈ es, e.module.name ≠ n := by
    rintro e he rfl
    obtain ⟨x, hx, -⟩ := (h.holds e he).found
    rw [World.loaded?, hnew] at hx
    cases hx
  refine ⟨hlaunched.sited, hlaunched.stores_made es h.stores hdifferent, fun k i hi hlt => ?_,
    ?_, ?_, fun x hx hsome => ?_⟩
  · by_cases hold : i < w.count k
    · obtain ⟨e, he, hin⟩ := h.covered k i hi hold
      exact ⟨e, List.mem_append_left _ he, hin⟩
    · refine ⟨_, List.mem_append_right _ (List.mem_singleton_self _), ?_, ?_⟩
      · exact (hlaunched.begins k).symm ▸ Nat.le_of_not_lt hold
      · rw [← hlaunched.ends k, ← hlaunched.begins k] at hlt
        exact hlt
  · exact List.forall_mem_append.mpr ⟨fun e he => hlaunched.keeps e (h.holds e he)
      (hdifferent e he), List.forall_mem_singleton.mpr hlaunched.holds⟩
  · exact List.forall_mem_append.mpr ⟨h.source, List.forall_mem_singleton.mpr ⟨hn, rfl, rfl⟩⟩
  · by_cases hx' : x = n
    · exact ⟨_, List.mem_append_right _ (List.mem_singleton_self _), hx'.symm⟩
    · rw [hlaunched.current, if_neg hx'] at hsome
      obtain ⟨e, he, hname⟩ := h.known x hx hsome
      exact ⟨e, List.mem_append_left _ he, hname⟩

/-- A module is put into the package around it, which is no module that is asked for. -/
theorem attach (hn : n ∈ involved inputs) : ∃ w', (SearchPath.attach n).run.run w = (.ok (), w') ∧
    w'.current = w.current ∧ l.Imported t w' es := by
  unfold SearchPath.attach
  rcases hcut : cutLast n with ⟨_ | p, name⟩
  · exact ⟨w, rfl, rfl, h⟩
  obtain ⟨-, hnot, -⟩ := around_package (l := l) hn (congrArg Prod.fst hcut)
  have hsound : ∀ m : LoadedModule, w.SoundNames m.names →
      w.SoundNames (putPair name (.module n) m.names) := fun m hm =>
    World.soundNames_putPair hm _ World.sound_module
  obtain ⟨hclosed, hgrown⟩ := World.closed_changeModule h.sited.closed p
    (f := fun m => { m with names := putPair name (.module n) m.names }) hsound
  refine ⟨_, rfl, current_changeModule .., h.idle ?_ (h.stores.keep hclosed hgrown
    (typeVars_changeModule ..)) (fun e he => ?_) (fun k => count_changeModule ..)
    fun x _ => congrArg _ (current_changeModule ..)⟩
  · exact h.sited.change (fun _ => ⟨rfl, rfl, rfl, rfl⟩) hsound
  · refine (h.holds e he).keep hgrown (fun _ _ _ => by rw [typeVars_changeModule]) ?_
    rw [loaded?_changeModule h.sited.distinguishes, if_neg]
    exact fun hname => hnot (hname ▸ (h.source e he).1)

end Imported

/-- What importing a module ends in: it fails as the module does alone, or the module is found. -/
def Imports (l : Layout inputs) (t : FileTree) (n : String) (body : Run Unit) (w : World) : Prop :=
  ∃ w', body.run.run w = (l.verdict t n, w') ∧ (l.verdict t n = .ok () →
    ∃ es, l.Imported t w' es ∧ Retains w w' ∧ (w'.current.lookup n).isSome = true)

section Import

variable {es : List Stretch} {k : Nat}

/-- Importing a module that is found already does nothing. -/
theorem run_importNamed_found (hn : n ∈ involved inputs)
    (hfound : (w.current.lookup n).isSome = true) (hk : 0 < k) :
    ((⟨t, [l.home]⟩ : SearchPath).importNamed k n).run.run w = (.ok (), w) := by
  obtain ⟨k, rfl⟩ := Nat.exists_eq_add_one_of_ne_zero (Nat.ne_zero_of_lt hk)
  rw [SearchPath.importNamed_succ,
    if_neg fun hempty => (l.own n hn).1 (beq_iff_eq.mp hempty), SearchPath.run_look,
    isKnown_involved (l := l) hn, if_pos hfound]
  rfl

theorem imports_found (ht : l.Laid t) (h : l.Imported t w es) (hn : n ∈ involved inputs)
    (hfound : (w.current.lookup n).isSome = true) {body : Run Unit}
    (hbody : body.run.run w = (.ok (), w)) : l.Imports t n body w := by
  rw [Imports, h.verdict_of_found ht hn hfound]
  exact ⟨w, hbody, fun _ => ⟨es, h, fun _ _ hi => hi, hfound⟩⟩

/-- Loading a module that is not found yet. -/
theorem imports_load (ht : l.Laid t) (h : l.Imported t w es) (hn : n ∈ involved inputs)
    (hpackage : ∀ p, (cutLast n).1 = some p → (w.current.lookup p).isSome = true)
    (hnew : w.current.lookup n = none) (hk : SearchPath.longestImport t < k) :
    l.Imports t n ((⟨t, [l.home]⟩ : SearchPath).load (SearchPath.importWith
      ((⟨t, [l.home]⟩ : SearchPath).importNamed k) n) n (l.site n)) w := by
  have hretains : ∀ {w' : World}, (∀ m, w'.current.lookup m =
      if m = n then some w.modules.size else w.current.lookup m) →
        Retains w w' ∧ (w'.current.lookup n).isSome = true := by
    intro w' hcurrent
    refine ⟨fun m i hi => ?_, ?_⟩
    · rw [hcurrent, if_neg, hi]
      rintro rfl
      rw [hnew] at hi
      cases hi
    · rw [hcurrent, if_pos rfl]
      rfl
  rcases mem_involved.mp hn with hasked | ⟨m, hm, haround⟩
  · obtain ⟨file, folders, hsite⟩ := l.source n hasked
    obtain ⟨w', hrun, hok⟩ := ht.launch h.sited hn hpackage hk hsite
    refine ⟨w', hrun, fun hverdict => ?_⟩
    obtain ⟨b, hlaunched⟩ := hok hverdict
    exact ⟨_, h.addModule hasked hnew hlaunched, hretains hlaunched.current⟩
  · cases hsite : l.site n with
    | source file folders =>
      obtain ⟨w', hrun, hok⟩ := ht.launch h.sited hn hpackage hk hsite
      rw [hsite] at hrun
      refine ⟨w', hrun, fun hverdict => ?_⟩
      obtain ⟨b, hlaunched⟩ := hok hverdict
      exact ⟨_, h.addPackage ht hm haround hlaunched, hretains hlaunched.current⟩
    | compiled file =>
      have hfolders := (l.package m hm n haround).2
      rw [hsite] at hfolders
      cases hfolders
    | portions folders =>
      have hentry : l.entry n = ⟨n, [], none, some folders, none, true⟩ := by
        rw [entry, hsite]
        rfl
      rw [Imports, (ht.idle m hm n haround).1]
      refine ⟨w.addModule (l.entry n), hentry ▸ rfl, fun _ => ?_⟩
      exact ⟨es, h.addFolders hm haround hpackage, hretains fun x => current_addModule ..⟩

/-- Importing a module once the package around it is known. -/
theorem imports_importFound (ht : l.Laid t) (h : l.Imported t w es) (hn : n ∈ involved inputs)
    (hpackage : ∀ p, (cutLast n).1 = some p → (w.current.lookup p).isSome = true)
    (hk : SearchPath.longestImport t < k) :
    l.Imports t n (SearchPath.importFound ⟨t, [l.home]⟩ k n (cutLast n).2
      (cutLast n).1) w := by
  by_cases hfound : (w.current.lookup n).isSome = true
  · refine imports_found ht h hn hfound ?_
    rw [SearchPath.importFound, SearchPath.run_look, isKnown_involved (l := l) hn, if_pos hfound]
    rfl
  obtain ⟨w₁, hload, hok⟩ :=
    imports_load ht h hn hpackage (Option.not_isSome_iff_eq_none.mp hfound) hk
  have hrun : (SearchPath.importFound ⟨t, [l.home]⟩ k n (cutLast n).2 (cutLast n).1).run.run w =
      (((⟨t, [l.home]⟩ : SearchPath).load (SearchPath.importWith
        ((⟨t, [l.home]⟩ : SearchPath).importNamed k) n) n (l.site n)) >>= fun _ =>
          SearchPath.attach n).run.run w := by
    rw [SearchPath.importFound, SearchPath.run_look, isKnown_involved (l := l) hn, if_neg hfound,
      SearchPath.run_look, h.sited.foldersOf hn hpackage, run_given, ht.located n hn]
  rw [Imports, hrun, run_bind, hload]
  rcases hverdict : l.verdict t n with f | ⟨⟩
  · refine ⟨w₁, rfl, fun hok => ?_⟩
    cases hok
  · obtain ⟨es₁, himported, hretains, hknown⟩ := hok hverdict
    obtain ⟨w₂, hattach, hcurrent, himported⟩ := himported.attach hn
    refine ⟨w₂, hattach, fun _ => ⟨es₁, himported, fun m i hi => ?_, ?_⟩⟩
    · rw [hcurrent]
      exact hretains m i hi
    · rw [hcurrent]
      exact hknown

/-- Importing a module, with the packages around it first, which never fail. -/
theorem imports_importNamed (ht : l.Laid t) (h : l.Imported t w es) (hn : n ∈ involved inputs)
    (hk : n.length + SearchPath.longestImport t < k) :
    l.Imports t n ((⟨t, [l.home]⟩ : SearchPath).importNamed k n) w := by
  induction hlength : n.length using Nat.strongRecOn generalizing n w es k with
  | ind length ih =>
    subst hlength
    by_cases hfound : (w.current.lookup n).isSome = true
    · exact imports_found ht h hn hfound (run_importNamed_found hn hfound (by omega))
    obtain ⟨k, rfl⟩ := Nat.exists_eq_add_one_of_ne_zero (Nat.ne_zero_of_lt hk)
    rw [SearchPath.importNamed_succ,
      if_neg fun hempty => (l.own n hn).1 (beq_iff_eq.mp hempty)]
    have hrun : ((do
        if SearchPath.isKnown (← get) n then pure ()
        else
          SearchPath.importPackage ⟨t, [l.home]⟩ k (cutLast n).1
          SearchPath.importFound ⟨t, [l.home]⟩ k n (cutLast n).2 (cutLast n).1 :
            Run Unit)).run.run w =
        (SearchPath.importPackage ⟨t, [l.home]⟩ k (cutLast n).1 >>= fun _ =>
          SearchPath.importFound ⟨t, [l.home]⟩ k n (cutLast n).2 (cutLast n).1).run.run w := by
      rw [SearchPath.run_look, isKnown_involved (l := l) hn, if_neg hfound]
    rw [Imports, hrun, run_bind]
    cases hcut : (cutLast n).1 with
    | none =>
      have hfree : ∀ p, (cutLast n).1 = some p → (w.current.lookup p).isSome = true := by
        intro p hp
        rw [hcut] at hp
        cases hp
      have hlength : n.length ≠ 0 := fun hzero => (l.own n hn).1 (String.length_eq_zero_iff.mp hzero)
      have himports := imports_importFound ht h hn hfree (k := k) (by omega)
      rw [hcut] at himports
      exact himports
    | some p =>
      have haround := SearchPath.cutLast_around hcut
      obtain ⟨m, hm, hpackage⟩ := involved_package hn haround
      have hlength := SearchPath.length_packagesAround haround
      obtain ⟨w₁, hrun₁, hok⟩ := ih p.length hlength h (mem_involved.mpr (.inr ⟨m, hm, hpackage⟩))
        (k := k) (by omega) rfl
      have hidle := (ht.idle m hm p hpackage).1
      obtain ⟨es₁, himported, hretains, hknown⟩ := hok hidle
      rw [hidle] at hrun₁
      have hfound₁ : ∀ q, (cutLast n).1 = some q → (w₁.current.lookup q).isSome = true := by
        intro q hq
        obtain rfl := Option.some.inj (hcut.symm.trans hq)
        exact hknown
      obtain ⟨w₂, hrun₂, hok₂⟩ := imports_importFound ht himported hn hfound₁ (k := k) (by omega)
      rw [hcut] at hrun₂
      rw [show SearchPath.importPackage ⟨t, [l.home]⟩ k (some p) =
        (⟨t, [l.home]⟩ : SearchPath).importNamed k p from rfl, hrun₁]
      refine ⟨w₂, hrun₂, fun hverdict => ?_⟩
      obtain ⟨es₂, himported₂, hretains₂, hknown₂⟩ := hok₂ hverdict
      exact ⟨es₂, himported₂, fun x i hi => hretains₂ x i (hretains x i hi), hknown₂⟩

end Import

end Layout

end TypeProjection
