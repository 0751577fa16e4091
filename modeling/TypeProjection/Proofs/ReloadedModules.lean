import TypeProjection.Proofs.LocatedModules

/-!
# Modules that are run once more

A module that is run once more keeps the names that it had, each in its place, and binds those of
its file over them. So it is found as its file has it now if the file binds all names again that
older versions have bound; and its public classes come in the order of the file if they began with
those of the older versions. A version that fails leaves the names that it has bound until then.
-/

namespace TypeProjection

open Annotation
open Definition (Run)
open Loading (asked involved)
open SearchPath (cutLast)

namespace Layout

section Versions

variable {inputs : List String} (l : Layout inputs) (t' t : FileTree) (n : String)

/-- The names that a module binds when it is run alone, in order. -/
def bound : List String := keys ((l.solo t n).2.namesOf n)

/-- The public classes among them. -/
def classes : List String :=
  keys (((l.solo t n).2.namesOf n).filter (InputModule.isPublicClass (l.solo t n).2 n))

/-- A version of a module may follow an older one: it does not fail for want of a name that the
older one has bound. If it runs well, it binds all these names; and if its public classes are asked
for, those that the older one has bound are the first of them. -/
structure Replaces : Prop where
  spared : ∀ name ∈ l.bound t' n, l.verdict t n ≠ .error (.unknownName name)
  bound : l.verdict t n = .ok () → ∀ name ∈ l.bound t' n, name ∈ l.bound t n
  ordered : (n, []) ∈ inputs.map Loading.cutInput → l.verdict t n = .ok () →
    (l.bound t' n).filter (l.classes t n).contains <+: l.classes t n

/-- The modules that are asked for are found in a world. What they have bound until now is what
certain versions bind, one after another. -/
structure Ready (T : String → FileTree → Prop) (w : World) : Prop where
  sited : l.Sited w
  found : ∀ n ∈ asked inputs, (w.current.lookup n).isSome = true
  names : ∀ n ∈ asked inputs, ∃ ts : List FileTree, (∀ t ∈ ts, T n t) ∧
    keys (w.namesOf n) = distinct (ts.flatMap fun t => l.bound t n)

/-- A module is found in a world with all that its file makes, and with nothing else. -/
structure Shows (w : World) (e : Stretch) : Prop where
  module : e.module = l.entry n
  content : e.content = l.content t n
  found : (w.current.lookup n).isSome = true
  names : NamesSent e.serials (e.alone.namesOf n) (w.namesOf n)
  nodup : (keys (w.namesOf n)).Nodup
  ordered : (n, []) ∈ inputs.map Loading.cutInput →
    (keys (w.namesOf n)).filter (l.classes t n).contains = l.classes t n

/-- Modules are found as their files have them. -/
structure Refreshed (done : List String) (w : World) (es : List Stretch) : Prop where
  stores : w.Stores es
  shows : ∀ n ∈ done, ∃ e ∈ es, l.Shows t n w e

end Versions

variable {inputs : List String} {l : Layout inputs} {t t' : FileTree} {n : String} {w w₁ : World}
  {T : String → FileTree → Prop} {es : List Stretch} {done : List String}

/-- No name is bound twice. -/
theorem Laid.nodup_bound (ht : l.Laid t) (hn : n ∈ involved inputs) : (l.bound t n).Nodup := by
  have hosts : (soloWorld (l.entry n)).Hosts (l.entry n) :=
    hosts_addModule closed_initial (fun _ _ => List.getElem?_toArray) (fun _ _ => rfl) rfl
      (l.own n hn).2
  have hwithin : (soloWorld (l.entry n)).Within (· ∈ involved inputs) := by
    intro m i hi
    rw [lookup_soloWorld hi]
    exact hn
  obtain ⟨w₁, -, hfollows, -⟩ := hosts.run rfl (ht.absolute n hn) hwithin (ht.abroad n hn)
    (SearchPath.suffices_fuel ⟨t, [l.home]⟩ _)
    (Definition.Track.spared (namesOf_addModule _ (l.entry n)) _)
  exact hfollows.names.nodup

/-- The public classes are known by what the names mean. -/
theorem mem_classes (h : (l.bound t n).Nodup) {name : String} : name ∈ l.classes t n ↔
    (((l.solo t n).2.namesOf n).lookup name).any fun v =>
      InputModule.isPublicClass (l.solo t n).2 n (name, v) := by
  have hclasses := keys_filter h fun name v => InputModule.isPublicClass (l.solo t n).2 n (name, v)
  refine (iff_of_eq (congrArg (name ∈ ·) hclasses)).trans (List.mem_filter.trans ?_)
  refine and_iff_right_of_imp fun hany => ?_
  obtain ⟨v, hv, -⟩ := Option.any_eq_true .. |>.mp hany
  exact List.mem_map_of_mem (mem_of_lookup hv)

theorem bound_filter_classes (h : (l.bound t n).Nodup) :
    (l.bound t n).filter (l.classes t n).contains = l.classes t n := by
  have hclasses := keys_filter h fun name v => InputModule.isPublicClass (l.solo t n).2 n (name, v)
  refine (List.filter_congr fun name _ => ?_).trans hclasses.symm
  rw [Bool.eq_iff_iff, List.contains_iff_mem, mem_classes h]

/-- A version that runs well may follow any that binds nothing else, if the public classes are in
order. -/
theorem replaces_of_ok (hok : l.verdict t n = .ok ())
    (hbound : ∀ name ∈ l.bound t' n, name ∈ l.bound t n)
    (hordered : (l.bound t' n).filter (l.classes t n).contains <+: l.classes t n) :
    l.Replaces t' t n where
  spared _ _ hf := by
    rw [hok] at hf
    cases hf
  bound _ := hbound
  ordered _ _ := hordered

/-- A version that runs well may follow itself. -/
theorem replaces_self (hok : l.verdict t n = .ok ()) (h : (l.bound t n).Nodup) :
    l.Replaces t t n :=
  replaces_of_ok hok (fun _ hname => hname) (by rw [bound_filter_classes h])

/-- A version that raises something itself may follow any. -/
theorem replaces_of_raised {cls : Annotation.ExceptionClass} {text : String}
    (hraised : l.verdict t n = .error (.raised cls text)) : l.Replaces t' t n where
  spared _ _ hf := by
    rw [hraised] at hf
    cases hf
  bound hok := by
    rw [hraised] at hok
    cases hok
  ordered _ hok := by
    rw [hraised] at hok
    cases hok

/-- A class that a module has made is public where it stands if it is so in the module alone. -/
theorem isPublicClass_made {e : Stretch} (h : w.Made e) {name : String} {v : Value}
    (hv : e.alone.Sound v) : InputModule.isPublicClass w n (name, v.rename e.serials) =
      InputModule.isPublicClass e.alone n (name, v) := by
  cases v with
  | cls c =>
    have hmodule : w.moduleOf (c.rename e.serials) = e.alone.moduleOf c := by
      cases c with
      | library m x => rfl
      | declared i =>
        have hinfo := Array.getElem?_eq_getElem (World.sound_cls.mp hv : i < e.alone.classes.size)
        change (w.classes[e.serials.cls i]?.map ClassInfo.module).getD "" =
          (e.alone.classes[i]?.map ClassInfo.module).getD ""
        rw [h.classes hinfo, hinfo]
        rfl
    rw [Value.rename_cls]
    dsimp only [InputModule.isPublicClass]
    rw [hmodule]
  | _ => simp [InputModule.isPublicClass]

/-- The public classes of a module come in the order of its file. -/
theorem Shows.classes {e : Stretch} (h : l.Shows t n w e) (hmade : w.Made e)
    (hbound : (l.bound t n).Nodup) (hasked : (n, []) ∈ inputs.map Loading.cutInput) :
    keys ((w.namesOf n).filter (InputModule.isPublicClass w n)) = l.classes t n := by
  have hkeys := keys_filter h.nodup fun name v => InputModule.isPublicClass w n (name, v)
  have hsolo : e.alone = (l.solo t n).2 := by
    rw [Stretch.alone, h.module, h.content]
    rfl
  refine hkeys.trans ((List.filter_congr fun name _ => ?_).trans (h.ordered hasked))
  rw [Bool.eq_iff_iff, List.contains_iff_mem, mem_classes hbound, h.names name, ← hsolo]
  cases hv : (e.alone.namesOf n).lookup name with
  | none => rfl
  | some v =>
    have hsound := World.sound_namesOf hmade.proper.closed n (name, v) (mem_of_lookup hv)
    rw [Option.map_some, Option.any_some, Option.any_some, isPublicClass_made hmade hsound]

theorem changeModule_self {f : LoadedModule → LoadedModule}
    (h : ∀ x, w.loaded? n = some x → f x = x) : w.changeModule n f = w := by
  unfold World.changeModule
  cases hi : w.current.lookup n with
  | none => rfl
  | some i =>
    have hsame : w.modules.modify i f = w.modules := by
      refine Array.ext_getElem? fun j => ?_
      rw [Array.getElem?_modify]
      split
      · next hij =>
        subst hij
        cases hx : w.modules[i]? with
        | none => rfl
        | some x => rw [Option.map_some, h x ((loaded?_of_current hi).trans hx)]
      · rfl
    dsimp only
    rw [hsame]

/-- Running a module once more runs what its file holds now, in the module that there is. -/
theorem Laid.run_reload (ht : l.Laid t) (h : l.Sited w) (hn : n ∈ asked inputs)
    (hfound : (w.current.lookup n).isSome = true) :
    ((⟨t, [l.home]⟩ : SearchPath).reload n).run.run w = (SearchPath.execute
      ((⟨t, [l.home]⟩ : SearchPath).importFrom n) n (l.content t n)).run.run w := by
  have hn' := involved_of_asked hn
  obtain ⟨i, hi⟩ := Option.isSome_iff_exists.mp hfound
  obtain ⟨file, folders, hsite⟩ := l.source n hn
  obtain ⟨x, hx, -, hfile, hfolders⟩ := h.loaded? hi
  have hfoldersOf := h.foldersOf (t := t) hn' fun p hp => h.packaged n i p hi hp
  have hlocated := ht.located n hn'
  rw [hsite] at hfile hfolders hlocated
  have hsame : w.changeModule n (fun m =>
      { m with file := some (SearchPath.absolute file), folders := folders }) = w := by
    refine changeModule_self fun y hy => ?_
    obtain rfl : x = y := Option.some.inj (hx.symm.trans hy)
    obtain ⟨name, names, xfile, xfolders, version, isReady⟩ := x
    obtain rfl : xfile = some (SearchPath.absolute file) := hfile
    obtain rfl : xfolders = folders := hfolders
    rfl
  have hcontent : l.content t n = SearchPath.contentAt t file := by
    rw [content, hsite]
    rfl
  rw [hcontent]
  unfold SearchPath.reload
  rw [SearchPath.run_look, hi]
  dsimp only
  rw [if_neg (by simp)]
  rcases hcut : cutLast n with ⟨package, name⟩
  rw [hcut] at hfoldersOf hlocated
  dsimp only at hfoldersOf hlocated ⊢
  rw [hfoldersOf, run_given, hlocated]
  change (SearchPath.execute ((⟨t, [l.home]⟩ : SearchPath).importFrom n) n
    (SearchPath.contentAt t file)).run.run (w.changeModule n fun m =>
      { m with file := some (SearchPath.absolute file), folders := folders }) = _
  rw [hsame]

/-- The world is ready for the module to be run once more. -/
theorem Ready.hosts (h : l.Ready T w) (hn : n ∈ asked inputs)
    (hvisible : ∀ t, T n t → ∀ name ∈ l.bound t n, builtinName? name = none) :
    w.Hosts (l.entry n) := by
  obtain ⟨ts, hts, hkeys⟩ := h.names n hn
  obtain ⟨i, hi⟩ := Option.isSome_iff_exists.mp (h.found n hn)
  obtain ⟨x, hx, -, -, hfolders⟩ := h.sited.loaded? hi
  refine ⟨h.sited.closed, h.sited.unmarked, fun m hm => ?_, ?_, ?_, fun e he => ?_⟩
  · rw [World.loaded?, h.sited.library hm]
    rfl
  · exact (congrArg (Option.map LoadedModule.folders) hx).trans (congrArg some hfolders)
  · exact hkeys ▸ nodup_distinct _
  · have hkey : e.1 ∈ keys (w.namesOf n) := List.mem_map_of_mem he
    rw [hkeys, mem_distinct] at hkey
    obtain ⟨t, ht, hname⟩ := List.mem_flatMap.mp hkey
    exact hvisible t (hts t ht) e.1 hname

/-- Running a module once more goes as it does alone, in the names that the module had. -/
theorem Ready.reload (h : l.Ready T w) (ht : l.Laid t) (hn : n ∈ asked inputs)
    (hosts : w.Hosts (l.entry n)) (hT : ∀ t', T n t' → l.Replaces t' t n) :
    ∃ w₁, ((⟨t, [l.home]⟩ : SearchPath).reload n).run.run w = (l.verdict t n, w₁) ∧
      hosts.Runs (l.content t n) w₁ := by
  have hn' := involved_of_asked hn
  rw [ht.run_reload h.sited hn (h.found n hn)]
  refine hosts.runs rfl (ht.absolute n hn') h.sited.within (ht.abroad n hn')
    (SearchPath.suffices_fuel _ _) fun f hf ⟨e, he, hmissing⟩ => ?_
  obtain ⟨ts, hts, hkeys⟩ := h.names n hn
  have hkey : e.1 ∈ keys (w.namesOf n) := List.mem_map_of_mem he
  rw [hkeys, mem_distinct] at hkey
  obtain ⟨t', ht', hname⟩ := List.mem_flatMap.mp hkey
  exact (hT t' (hts t' ht')).spared e.1 hname (hmissing ▸ hf)

section Ran

variable {hosts : w.Hosts (l.entry n)} (hruns : hosts.Runs (l.content t n) w₁)

include hruns

/-- The names of other modules are as they were. -/
theorem namesOf_other (h : l.Sited w) {m : String} (hm : m ≠ n) : w₁.namesOf m = w.namesOf m := by
  rw [World.namesOf, World.namesOf, hruns.loaded?_other]
  intro i hi hsame
  exact hm (h.distinguishes m n i hi hsame)

/-- What the module has bound comes behind what it had. -/
theorem keys_namesOf {ts : List FileTree}
    (hkeys : keys (w.namesOf n) = distinct (ts.flatMap fun t => l.bound t n)) :
    keys (w₁.namesOf n) = distinct ((ts ++ [t]).flatMap fun t => l.bound t n) := by
  have horder : keys (w₁.namesOf n) = distinct (keys (w.namesOf n) ++ l.bound t n) :=
    hruns.follows.names.order
  rw [horder, hkeys, distinct_append_left, List.flatMap_append, List.flatMap_singleton]

/-- After a module was run once more, however that has ended. -/
theorem Ready.ran (h : l.Ready T w) (ht : l.Laid t) (hn : n ∈ asked inputs) :
    l.Ready (fun m t' => T m t' ∨ m = n ∧ t' = t) w₁ where
  sited := h.sited.ran hruns (ht.unmarked n (involved_of_asked hn))
  found m hm := by
    rw [hruns.spares.current]
    exact h.found m hm
  names m hm := by
    obtain ⟨ts, hts, hkeys⟩ := h.names m hm
    by_cases hmn : m = n
    · subst hmn
      refine ⟨ts ++ [t], List.forall_mem_append.mpr ⟨fun t' ht' => .inl (hts t' ht'),
        List.forall_mem_singleton.mpr (.inr ⟨rfl, rfl⟩)⟩, keys_namesOf hruns hkeys⟩
    · refine ⟨ts, fun t' ht' => .inl (hts t' ht'), ?_⟩
      rw [namesOf_other hruns h.sited hmn, hkeys]

/-- A module that has run well once more is found as its file has it. -/
theorem Ready.shows (h : l.Ready T w) (hn : n ∈ asked inputs)
    (hT : ∀ t', T n t' → l.Replaces t' t n) (hok : l.verdict t n = .ok ()) :
    l.Shows t n w₁ ⟨l.entry n, l.content t n, w.start hosts.closed⟩ := by
  obtain ⟨ts, hts, hkeys⟩ := h.names n hn
  have hbound : (l.bound t n).Nodup := hruns.follows.names.nodup
  have hkeys' := keys_namesOf hruns hkeys
  refine ⟨rfl, rfl, ?_, fun name => ?_, hkeys' ▸ nodup_distinct _, fun hasked => ?_⟩
  · rw [hruns.spares.current]
    exact h.found n hn
  · have hlookup : (w₁.namesOf n).lookup name = (((l.solo t n).2.namesOf n).lookup name |>.map
        (Value.rename hosts.track.serials)).or ((w.namesOf n).lookup name) :=
      hruns.follows.names.lookup name
    change _ = (((l.solo t n).2.namesOf n).lookup name).map (Value.rename hosts.track.serials)
    rw [hlookup]
    cases hnew : ((l.solo t n).2.namesOf n).lookup name with
    | some v => rfl
    | none =>
      refine List.lookup_eq_none_iff.mpr fun e he => bne_iff_ne.mpr ?_
      rintro rfl
      have hkey : e.1 ∈ keys (w.namesOf n) := List.mem_map_of_mem he
      rw [hkeys, mem_distinct] at hkey
      obtain ⟨t', ht', hname⟩ := List.mem_flatMap.mp hkey
      obtain ⟨e', he', hsame⟩ := List.mem_map.mp ((hT t' (hts t' ht')).bound hok e.1 hname)
      exact bne_iff_ne.mp (List.lookup_eq_none_iff.mp hnew e' he') hsame.symm
  · have hnodup : (l.classes t n).Nodup := by
      rw [← bound_filter_classes hbound]
      exact hbound.filter _
    rw [hkeys', filter_distinct, List.flatMap_append, List.flatMap_singleton, List.filter_append,
      bound_filter_classes hbound, List.filter_flatMap]
    exact distinct_prefixes hnodup fun t' ht' => (hT t' (hts t' ht')).ordered hasked hok

/-- So are the other modules that were found as their files have them. -/
theorem Refreshed.ran (h : l.Refreshed t done w es) (hsited : l.Sited w)
    (hsolo : (l.solo t n).2.Unmarked) (hok : l.verdict t n = .ok ())
    (hshows : l.Shows t n w₁ ⟨l.entry n, l.content t n, w.start hosts.closed⟩) :
    ∃ es', l.Refreshed t (done ++ [n]) w₁ es' := by
  refine ⟨Stretch.without n es ++ [⟨l.entry n, l.content t n, w.start hosts.closed⟩],
    hruns.stores_made (h.stores.without n) hsolo rfl hok fun e he => (Stretch.mem_without.mp he).2,
    List.forall_mem_append.mpr ⟨fun m hm => ?_, List.forall_mem_singleton.mpr
      ⟨_, List.mem_append_right _ (List.mem_singleton_self _), hshows⟩⟩⟩
  by_cases hmn : m = n
  · subst hmn
    exact ⟨_, List.mem_append_right _ (List.mem_singleton_self _), hshows⟩
  · obtain ⟨e, he, hold⟩ := h.shows m hm
    have hne : e.module.name ≠ n := by
      rw [hold.module]
      exact hmn
    have hsame := namesOf_other hruns hsited hmn
    refine ⟨e, List.mem_append_left _ (Stretch.mem_without.mpr ⟨he, hne⟩), hold.module,
      hold.content, ?_, ?_, ?_, ?_⟩
    · rw [hruns.spares.current]
      exact hold.found
    · exact hsame ▸ hold.names
    · exact hsame ▸ hold.nodup
    · exact hsame ▸ hold.ordered

end Ran

/-! Modules that have just been imported. -/

namespace Imported

variable (h : l.Imported t w es) (ht : l.Laid t)

include h ht

theorem keys_namesOf (hn : n ∈ asked inputs) (hfound : (w.current.lookup n).isSome = true) :
    keys (w.namesOf n) = l.bound t n ∧ ∃ e ∈ es, l.Shows t n w e := by
  have hbound := ht.nodup_bound (involved_of_asked hn)
  obtain ⟨e, he, rfl⟩ := h.known n hn hfound
  obtain ⟨-, hmodule, hcontent⟩ := h.source e he
  obtain ⟨x, hx, -, hnames⟩ := (h.holds e he).found
  have hsolo : e.alone = (l.solo t e.module.name).2 := by
    rw [Stretch.alone, hcontent]
    exact congrArg (fun m => (soloRun m _).2) hmodule
  have hnamesOf : w.namesOf e.module.name =
      renamedNames e.serials (e.alone.namesOf e.module.name) := by
    rw [World.namesOf, hx]
    exact hnames
  have hkeys : keys (w.namesOf e.module.name) = l.bound t e.module.name := by
    rw [hnamesOf, bound, ← hsolo]
    exact Definition.renamedNames_keys _
  refine ⟨hkeys, e, he, hmodule, hcontent, hfound, ?_, hkeys ▸ hbound, fun _ => ?_⟩
  · rw [hnamesOf]
    exact namesSent_renamed _ _
  · rw [hkeys, bound_filter_classes hbound]

theorem ready (hfound : ∀ n ∈ asked inputs, (w.current.lookup n).isSome = true) :
    l.Ready (fun _ t' => t' = t) w where
  sited := h.sited
  found := hfound
  names n hn := by
    obtain ⟨hkeys, -⟩ := h.keys_namesOf ht hn (hfound n hn)
    refine ⟨[t], List.forall_mem_singleton.mpr rfl, ?_⟩
    rw [hkeys, List.flatMap_singleton, distinct_of_nodup (ht.nodup_bound (involved_of_asked hn))]

theorem refreshed (hfound : ∀ n ∈ asked inputs, (w.current.lookup n).isSome = true) :
    l.Refreshed t (asked inputs) w es where
  stores := h.stores
  shows n hn := (h.keys_namesOf ht hn (hfound n hn)).2

end Imported

theorem Ready.mono {T' : String → FileTree → Prop} (h : l.Ready T w)
    (hT : ∀ n ∈ asked inputs, ∀ t, T n t → T' n t) : l.Ready T' w where
  sited := h.sited
  found := h.found
  names n hn := by
    obtain ⟨ts, hts, hkeys⟩ := h.names n hn
    exact ⟨ts, fun t ht => hT n hn t (hts t ht), hkeys⟩

end Layout

end TypeProjection
